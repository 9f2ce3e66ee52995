import Workbench.Session.Authority
import Workbench.View.Terminal

namespace Workbench

/-- Why a rehearsal breaks off. -/
inductive RehearsalFault where
  | session (fault : Session.OpenFault)
  | overflow

/-- What a rehearsal has printed, and the fault at which it broke off. -/
structure Rehearsal where
  printed : String
  fault : Option RehearsalFault

namespace Rehearsal

def defaultLines : List String := [
  "netscan --deep target.alpha",
  "logctl create audit /var/log/audit.log",
  "logctl create '/var/log/note.txt'"]

def defaultPortal : String := "metis"

/-- Run lines through the kernel, and print each with its answer. -/
def runLines : List String → Session → String → String × Except Overflow Session
  | [], session, printed => (printed, .ok session)
  | line :: rest, session, printed =>
    let (outcome, session, _) := session.command (some line) Kernel.defaultOperator
    match outcome with
    | .error fault => (printed, .error fault)
    | .ok turn =>
      runLines rest session (printed ++ "> " ++ line ++ "\n[" ++ turn.role.word ++ "] " ++ turn.text ++ "\n")

/-- Let a synced portal act once and close. A portal whose action is not answered stays open. -/
def actOnce (exchange : Exchange Session) (name : String) : Exchange Session :=
  let acted := (exchange.call name fun portal => portal.act (.text "monologue")).1.settle Session.authority
  match acted.portal? name with
  | some portal =>
    if portal.answered then (acted.call name Portal.close).1.settle Session.authority else acted
  | none => acted

/-- Let a portal meet the session's primary, and wait until its handshake has ended one way or the
other. -/
def meet (session : Session) (name : String) : Exchange Session :=
  let patience : Patience := {}
  let exchange := (Exchange.make "lia-sync" session [(name, .make name patience [])]).listen .primary
  let exchange := (exchange.call name Portal.start).1.settle Session.authority
  match (exchange.portal? name).bind Portal.synced? with
  | some _ => exchange
  | none => exchange.advance Session.authority patience.timeout

/-- What a portal draws while it syncs, acts once and closes. One that does not sync is left alone. -/
def meeting (session : Session) (name : String) : String :=
  let exchange := meet session name
  let exchange := match (exchange.portal? name).bind Portal.synced? with
    | some (.ok _) => actOnce exchange name
    | _ => exchange
  Text.join "" (exchange.state.drawn.map fun entry : String × Drawing => (Terminal.draw name entry.2).text)

/-- A session over a data root, some lines of commands, and one monologue of a portal. -/
def run (root : DataRoot) (narrator : Option Narrator) (now : String) (lines : List String) (portal : String) :
    Rehearsal :=
  match Session.ofData root narrator now with
  | .error fault => ⟨"", some (.session fault)⟩
  | .ok session => match runLines lines session "" with
    | (printed, .error _) => ⟨printed, some .overflow⟩
    | (printed, .ok session) => ⟨printed ++ meeting session portal, none⟩

/-- A rehearsal by command line: without lines the usual ones are run. -/
def perform (root : DataRoot) (narrator : Option Narrator) (now : String) (arguments : List String) : Rehearsal :=
  run root narrator now (if arguments.isEmpty then defaultLines else arguments) defaultPortal

end Rehearsal

end Workbench
