import Workbench.State.Basic
import Workbench.Text.Cut

namespace Workbench.State

def overrideCommand : String := "system-stress-test"

/-- A token of the form `key=value` with a single equals sign. -/
def override? (token : String) : Option (String × String) :=
  match Text.pieces '=' token with
  | [key, raw] => some (Text.strip key, Text.strip raw)
  | _ => none

/-- What an override puts into a metric: a number where the metric has a scale, else the text itself. -/
def overrideValue? (definitions : List Definition) (key raw : String) : Option Value :=
  match Definition.find? definitions key with
  | some (.metric _) => ((Decimal.read? raw).filter fun x => !x.isNaN).map .float
  | _ => some (.text raw)

/-- What a token overrides in a state: a known metric with a value that it can take. -/
def acceptable? (definitions : List Definition) (state : State) (token : String) : Option (String × Value) := do
  let (key, raw) ← override? token
  if Fields.has state key then (overrideValue? definitions key raw).map (key, ·) else none

/-- Apply one token, and count it if it overrides a metric. -/
def applyOverride (definitions : List Definition) (acc : State × Nat) (token : String) : State × Nat :=
  match acceptable? definitions acc.1 token with
  | some (key, value) => (Fields.update acc.1 key value, acc.2 + 1)
  | none => acc

/-- The tokens of an override line after its command word. -/
def overrideTokens (line : String) : List String :=
  match Text.dropLead? overrideCommand.toList line.toList with
  | some body => Text.words (String.ofList body)
  | none => Text.words line

/-- Overwrite metrics directly, as the tokens of a line say. -/
def override (definitions : List Definition) (state : State) (line : String) : State × Nat :=
  (overrideTokens line).foldl (applyOverride definitions) (state, 0)

end Workbench.State
