import Workbench.Value.Basic

namespace Workbench

/-- Messages that wait for portals beyond the process, in the order in which they arrived. -/
abbrev Outbox := List Value

namespace Outbox

/-- The portal that a message names, if it names one. -/
def addressee (message : Value) : Value :=
  (message.member? "portal").getD .null

/-- Whether a message is for whoever asks: a portal gets what names it or nobody, and one who gives no
name gets everything. -/
def isFor (portal : Option String) (message : Value) : Bool :=
  match portal with
  | none => true
  | some name => addressee message = .null || addressee message = .text name

/-- The messages for whoever asks, and those that stay. -/
def drain (outbox : Outbox) (portal : Option String) : List Value × Outbox :=
  outbox.partition (isFor portal)

end Outbox

end Workbench
