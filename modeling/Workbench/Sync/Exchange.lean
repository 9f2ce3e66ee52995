import Workbench.Sync.Portal
import Workbench.Sync.Primary

namespace Workbench

/-- Who listens on the channel of an exchange. -/
inductive Listener where
  | observer
  | primary
  | portal (id : String)
  deriving DecidableEq

/-- What those on the channel have still to do. -/
inductive Duty where
  | answer (data : Value)
  | shake (portal : String)
  | expire (portal : String) (action : Nat)
  deriving DecidableEq

/-- A primary with its source, its portals by their identities, what an observer has heard, and what the
views have drawn. -/
structure Parties (σ : Type) where
  source : σ
  primary : Primary
  portals : Fields Portal
  observed : List Value
  drawn : List (String × Drawing)

/-- The parties and the loop of the channel on which they meet. -/
abbrev Exchange (σ : Type) := Assembly (Parties σ) Listener Duty

namespace PortalDeed

/-- A deed of a portal as the loop sees it. -/
def toLoop (id : String) : PortalDeed → List (Deed Listener Duty)
  | .join => [.subscribe (.portal id)]
  | .leave => [.unsubscribe (.portal id)]
  | .send message => match message.dump with
    | .ok data => [.post data (some (.portal id))]
    | .error _ => []
  | .draw _ => []
  | .note notice => [.note notice]
  | .shake => [.proceed (.shake id)]
  | .shakeAfter span => [.sleep span (.shake id)]
  | .alarm span action => [.alarm span (.expire id action)]

def drawing? : PortalDeed → Option Drawing
  | .draw drawing => some drawing
  | _ => none

end PortalDeed

namespace Parties

variable {σ ε : Type}

/-- Take over what came of a call of a portal. -/
def takePortal (parties : Parties σ) (id : String) (outcome : PortalOutcome) :
    Parties σ × List (Deed Listener Duty) :=
  ({ parties with
      portals := parties.portals.update id outcome.portal
      drawn := parties.drawn ++ (outcome.deeds.filterMap PortalDeed.drawing?).map fun drawing => (id, drawing) },
    outcome.deeds.flatMap (PortalDeed.toLoop id))

/-- Take over what came of a message to the primary. -/
def takePrimary (parties : Parties σ) (outcome : PrimaryOutcome σ ε) : Parties σ × List (Deed Listener Duty) :=
  let posts : List (Deed Listener Duty) := match outcome.answer with
    | .ok (some data) => [.post data (some .primary), .finish false]
    | .ok none => [.finish false]
    | .error _ => [.finish true]
  ({ parties with source := outcome.source, primary := outcome.primary }, outcome.notices.map .note ++ posts)

/-- Hear a message. The observer keeps it, the primary answers it in a task of its own. -/
def hear (parties : Parties σ) (data : Value) : Listener → Parties σ × List (Deed Listener Duty)
  | .observer => ({ parties with observed := parties.observed ++ [data] }, [])
  | .primary => (parties, [.spawn (.answer data)])
  | .portal id => match parties.portals.get? id with
    | none => (parties, [])
    | some portal =>
      let outcome := portal.hear data
      let (parties, deeds) := parties.takePortal id outcome
      (parties, deeds ++ if outcome.fault.isSome then [.fail] else [])

/-- Do a duty. -/
def resume (authority : Authority σ ε) (parties : Parties σ) (now : Rat) :
    Duty → Parties σ × List (Deed Listener Duty)
  | .answer data => parties.takePrimary (parties.primary.answer authority parties.source data)
  | .shake id => match parties.portals.get? id with
    | none => (parties, [])
    | some portal => parties.takePortal id (portal.shake now)
  | .expire id action => match parties.portals.get? id with
    | none => (parties, [])
    | some portal => parties.takePortal id (portal.expire action)

/-- How the parties act, given where the primary takes its answers from. -/
def party (authority : Authority σ ε) : Party (Parties σ) Listener Duty where
  hear := fun _ listener data parties => parties.hear data listener
  resume := fun now duty parties => parties.resume authority now duty

end Parties

namespace Exchange

variable {σ ε : Type}

/-- An exchange on a channel of a name, to which nobody listens yet. -/
def make (name : String) (source : σ) (portals : Fields Portal) : Exchange σ :=
  ⟨.quiet name, ⟨source, .idle, portals, [], []⟩⟩

/-- Have a portal do something. -/
def call (exchange : Exchange σ) (id : String) (act : Portal → PortalOutcome) :
    Exchange σ × Option PortalFault :=
  match exchange.state.portals.get? id with
  | none => (exchange, none)
  | some portal =>
    let outcome := act portal
    (exchange.take (exchange.state.takePortal id outcome), outcome.fault)

def listen (exchange : Exchange σ) (listener : Listener) : Exchange σ :=
  { exchange with loop := exchange.loop.subscribe listener }

def leave (exchange : Exchange σ) (listener : Listener) : Exchange σ :=
  { exchange with loop := exchange.loop.unsubscribe listener }

/-- Everybody leaves the channel. -/
def close (exchange : Exchange σ) : Exchange σ :=
  { exchange with loop := exchange.loop.close }

/-- Post data on the channel. -/
def post (exchange : Exchange σ) (data : Value) (sender : Option Listener) :
    Except Json.NotEncodable (Exchange σ) :=
  (exchange.loop.post data sender).map fun loop => { exchange with loop := loop }

/-- Have the primary send a snapshot to everybody. -/
def broadcast (authority : Authority σ ε) (exchange : Exchange σ) (given : Option Snapshot) :
    Except (PrimaryFault ε) (Exchange σ) :=
  (exchange.state.primary.broadcast authority exchange.state.source given).map fun (primary, data) =>
    ⟨exchange.loop.broadcast data (some .primary), { exchange.state with primary := primary }⟩

def settle (authority : Authority σ ε) (exchange : Exchange σ) : Exchange σ :=
  Assembly.settle (Parties.party authority) exchange

def advance (authority : Authority σ ε) (span : Rat) (exchange : Exchange σ) : Exchange σ :=
  Assembly.advance (Parties.party authority) span exchange

def portal? (exchange : Exchange σ) (id : String) : Option Portal :=
  exchange.state.portals.get? id

end Exchange

end Workbench
