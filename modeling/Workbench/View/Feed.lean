import Workbench.View.Drawing

namespace Workbench

/-- Who may hear the events of a view: one that takes them in, one that fails at each, one that cannot
hear, or nobody. -/
inductive Audience where
  | attentive
  | failing
  | deaf
  | absent
  deriving DecidableEq

namespace Feed

def synced (portal : String) (snapshot : Value) : Value :=
  .object [("type", .text "portal_synced"), ("portal", .text portal), ("snapshot", snapshot)]

def history (key history : Value) : Value :=
  .object [("type", .text "history_update"), ("key", key), ("history", history)]

def input (portal : String) (enabled : Value) : Value :=
  .object [("type", .text "input_state"), ("portal", .text portal), ("enabled", enabled)]

def error (text : Value) : Value :=
  .object [("type", .text "portal_error"), ("text", text)]

/-- The event of a drawing in a portal of a name. -/
def event (portal : String) : Drawing → Value
  | .all snapshot => synced portal snapshot.toValue
  | .history key entries => history (.text key) (.list (entries.map .object))
  | .input enabled => input portal (.bool enabled)
  | .error text => error (.text text)

/-- What reaches an audience. Nothing is lost by a view whose audience does not hear it. -/
def heard (audience : Audience) (event : Value) : List Value :=
  match audience with
  | .attentive => [event]
  | .failing | .deaf | .absent => []

end Feed

end Workbench
