import Workbench.Sync.Loop
import Workbench.Sync.Message

namespace Workbench

/-- Where a primary takes its answers from: a snapshot of the state as it is, and the histories that an
action touches, which need not be well formed. An action may fail with a text. -/
structure Authority (σ ε : Type) where
  snapshot : σ → Except ε Snapshot
  act : String → String → σ → Except String Value × σ × List Notice

/-- What a primary does apart from the loop: it takes a snapshot of its source, or has the source act for a
portal. -/
inductive Chore where
  | snapshot
  | action (portal payload : String)
  deriving DecidableEq

/-- What comes of a chore. -/
inductive Yield (ε : Type) where
  | snapshot (taken : Except ε Snapshot)
  | action (portal : String) (histories : Except String Value)

def Chore.perform {σ ε : Type} (authority : Authority σ ε) (source : σ) : Chore → Yield ε × σ × List Notice
  | .snapshot => (.snapshot (authority.snapshot source), source, [])
  | .action portal payload =>
    let (histories, source, notices) := authority.act portal payload source
    (.action portal histories, source, notices)

/-- The authoritative side of a channel: how many snapshots it has sent and how many actions it has
served. -/
structure Primary where
  snapshots : Nat
  actions : Nat
  deriving DecidableEq

/-- Why a primary cannot answer. -/
inductive PrimaryFault (ε : Type) where
  | source (fault : ε)
  | malformed (failures : List Failure)
  | undecodable (fault : Text.DecodeFault)

/-- What came of a message: the primary and its source afterwards, what it notes, and the data to post or
the fault that kept it from answering. -/
structure PrimaryOutcome (σ ε : Type) where
  primary : Primary
  source : σ
  notices : List Notice
  answer : Except (PrimaryFault ε) (Option Value)

namespace Primary

variable {σ ε : Type}

def idle : Primary := ⟨0, 0⟩

/-- Who is served when nobody is named. -/
def defaultPortal : String := "metis"

def addressee (portal : Option String) : String :=
  (portal.filter (· ≠ "")).getD defaultPortal

/-- The update that carries a snapshot. -/
def update (snapshot : Snapshot) : Except (PrimaryFault ε) Value :=
  (Message.update snapshot).dump.mapError .undecodable

/-- The answer that carries histories to a portal. -/
def response (histories : Value) (portal : String) : Except (PrimaryFault ε) Value := do
  let histories ← (Schema.dictionary (Schema.list Schema.anyObject) histories).toExcept.mapError .malformed
  (Message.response histories (some portal)).dump.mapError .undecodable

/-- Send a snapshot to everybody. -/
def send (primary : Primary) (snapshot : Snapshot) : Except (PrimaryFault ε) (Primary × Value) :=
  (update snapshot).map fun data => ({ primary with snapshots := primary.snapshots + 1 }, data)

/-- A snapshot to everybody: the one given, else that of the source. -/
def broadcast (authority : Authority σ ε) (primary : Primary) (source : σ) (given : Option Snapshot) :
    Except (PrimaryFault ε) (Primary × Value) := do
  let snapshot ← match given with
    | some snapshot => .ok snapshot
    | none => (authority.snapshot source).mapError .source
  primary.send snapshot

/-- The chore that a message sets the primary: a snapshot for an announcement, an action for a request, and
none for all else. -/
def chore? : Message → Option Chore
  | .ready _ => some .snapshot
  | .request payload portal => some (.action (addressee portal) payload)
  | .update _ | .response .. | .closing _ => none

/-- Post what came of a chore. An action that fails is answered all the same, with nothing. -/
def reply (primary : Primary) : Yield ε → Primary × List Notice × Except (PrimaryFault ε) Value
  | .snapshot taken =>
    match taken.mapError .source >>= primary.send with
    | .ok (primary, data) => (primary, [], .ok data)
    | .error fault => (primary, [], .error fault)
  | .action portal histories =>
    let (histories, notices) := match histories with
      | .ok histories => (histories, [])
      | .error text =>
        (.object [], [.error ("[PRIMARY] Action handler failed for " ++ portal ++ ": " ++ text)])
    match response histories portal with
    | .ok data => ({ primary with actions := primary.actions + 1 }, notices, .ok data)
    | .error fault => (primary, notices, .error fault)

/-- Do a chore and post at once what comes of it. -/
def serve (authority : Authority σ ε) (primary : Primary) (source : σ) (chore : Chore) : PrimaryOutcome σ ε :=
  let (yield, source, notices) := chore.perform authority source
  let (primary, more, answer) := primary.reply yield
  ⟨primary, source, notices ++ more, answer.map some⟩

/-- Answer a message: do the chore that it sets, if it sets one. -/
def answer (authority : Authority σ ε) (primary : Primary) (source : σ) (data : Value) : PrimaryOutcome σ ε :=
  match Message.parse data with
  | .error fault => ⟨primary, source, [.warning ("[PRIMARY] dropped message: " ++ fault.message)], .ok none⟩
  | .ok message => match chore? message with
    | none => ⟨primary, source, [], .ok none⟩
    | some chore => primary.serve authority source chore

end Primary

end Workbench
