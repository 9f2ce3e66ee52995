import Workbench.State.Basic
import Workbench.Template

namespace Workbench

namespace StateChange

/-- A condition names a parameter, after any number of dashes, that must count as true. -/
def conditionMet (condition : String) (params : Fields Value) : Bool :=
  let key := String.ofList (condition.toList.dropWhile (· == '-'))
  ((Fields.get? params key).map Value.truthy).getD false

/-- Whether a change is about text and lists. An undeclared assignment goes by the current value: a
list, or a text that does not read as a number. -/
def worksOnText (change : StateChange) (current : Value) : Bool :=
  if change.type.isSome || change.operator ≠ .assign then change.isQualitative
  else match current with
    | .list _ => true
    | .text content =>
      let stripped := Text.strip content
      !stripped.isEmpty && ((Decimal.read? stripped).map Float.isNaN).getD true
    | _ => false

/-- The text form of a literal operand. A floating point number without a fraction reads as a whole one. A whole number
is written out however many digits it has: one that is read from the text of a catalog has not too many. -/
def literalText : Literal → String
  | .float x => match Decimal.wholePart? x with
    | some n => toString n
    | none => Decimal.plain x
  | literal => literal.toValue.display

/-- The operand of a change on text or lists: its rendered template, or its literal value. -/
def item (change : StateChange) (params : Fields Value) : Content :=
  match change.template.filter (· != "") with
  | some template => .text (Template.render template params)
  | none => match change.value with
    | some (.texts items) => .texts items
    | some literal => .text (literalText literal)
    | none => .text Value.null.display

/-- A value as a list of items: a text that is not empty is one item. -/
def itemsOf : Value → List Value
  | .list items => items
  | .text content => if content = "" then [] else [.text content]
  | _ => []

/-- Add an item at the end, unless it is there. -/
def addItem (item : String) (items : List Value) : List Value :=
  if items.contains (.text item) then items else items ++ [.text item]

/-- Take every occurrence of an item away. -/
def removeItem (item : String) (items : List Value) : List Value :=
  items.filter fun other => other ≠ .text item

/-- The new value of a metric under a change on text or lists; none when the change does not apply.
Numbers take no items, and items are single texts. -/
def onText (change : StateChange) (params : Fields Value) (current : Value) : Option Value :=
  match change.operator, change.item params with
  | .set, item | .assign, item => some item.toValue
  | _, .texts _ => none
  | operator, .text item =>
    if current.number?.isSome then none
    else match operator with
      | .add => some (.list (addItem item (itemsOf current)))
      | .remove => some (.list (removeItem item (itemsOf current)))
      | _ => some (.list (itemsOf current))

/-- The amount of a change on numbers: its literal value times the factor that its multiplier names. -/
def amount (change : StateChange) (params : Fields Value) : Except Overflow Float := do
  let base ← match change.value with
    | some literal => literal.toValue.operand
    | none => .ok 0.0
  match (change.multiplier.filter (· != "")).bind (Fields.get? params) with
  | none => return base
  | some param => match ← param.factor with
    | some factor => return base * factor
    | none => return base

/-- The new value of a metric under a change on numbers; none when the change does not apply, as when
an operand is no number. -/
def onNumber (change : StateChange) (params : Fields Value) (current : Value) :
    Except Overflow (Option Value) := do
  let delta ← change.amount params
  let base ← current.operand
  if base.isNaN || delta.isNaN then return none
  match change.operator with
  | .increase => return some (.float (base + delta))
  | .decrease => return some (.float (base - delta))
  | .assign => return some (.float delta)
  | _ => return none

def onValue (change : StateChange) (params : Fields Value) (current : Value) :
    Except Overflow (Option Value) :=
  if change.worksOnText current then .ok (change.onText params current) else change.onNumber params current

/-- Whether a change has no condition or a condition that is met. -/
def isDue (change : StateChange) (params : Fields Value) : Bool :=
  match change.condition.filter (· != "") with
  | none => true
  | some condition => conditionMet condition params

end StateChange

namespace State

/-- Apply one change. A change that is not due, names an unknown metric or does not fit its value is
skipped. -/
def apply (params : Fields Value) (state : State) (change : StateChange) : Except Overflow State :=
  if change.isDue params then
    match Fields.get? state change.metric with
    | none => .ok state
    | some current => (change.onValue params current).map fun
      | some value => Fields.update state change.metric value
      | none => state
  else .ok state

/-- Apply changes in their order; each sees the effects of those before it. -/
def applyAll (params : Fields Value) : State → List StateChange → Except Overflow State
  | state, [] => .ok state
  | state, change :: rest =>
    match apply params state change with
    | .error fault => .error fault
    | .ok next => applyAll params next rest

end State

end Workbench
