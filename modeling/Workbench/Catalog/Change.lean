import Workbench.Schema

namespace Workbench

/-- What a state change does to its metric. -/
inductive Operator where
  | increase
  | decrease
  | assign
  | set
  | add
  | remove
  deriving DecidableEq

namespace Operator

def table : List (String × Operator) :=
  [("+=", increase), ("-=", decrease), ("=", assign), ("set", set), ("add", add), ("remove", remove)]

def symbol : Operator → String
  | increase => "+="
  | decrease => "-="
  | assign => "="
  | set => "set"
  | add => "add"
  | remove => "remove"

/-- The operators that read as words work on text and lists. -/
def isWord : Operator → Bool
  | set | add | remove => true
  | increase | decrease | assign => false

def isStep : Operator → Bool
  | increase | decrease => true
  | assign | set | add | remove => false

end Operator

/-- The declared type of a metric. -/
inductive MetricType where
  | qualitative
  | numerical
  deriving DecidableEq

namespace MetricType

def table : List (String × MetricType) :=
  [("qualitative", qualitative), ("numerical", numerical)]

def word : MetricType → String
  | qualitative => "qualitative"
  | numerical => "numerical"

end MetricType

/-- A literal operand: a number, a text or a list of texts. -/
inductive Literal where
  | int (n : Int)
  | float (x : Float)
  | text (s : String)
  | texts (items : List String)
  deriving DecidableEq

def Literal.toValue : Literal → Value
  | .int n => .int n
  | .float x => .float x
  | .text s => .text s
  | .texts items => .list (items.map .text)

/-- One declared effect of a command on one metric. -/
structure StateChange where
  metric : String
  operator : Operator
  value : Option Literal
  type : Option MetricType
  condition : Option String
  multiplier : Option String
  template : Option String
  deriving DecidableEq

namespace StateChange

/-- The declared type decides whether a change is about text and lists; without one, the operator. -/
def isQualitative (change : StateChange) : Bool :=
  match change.type with
  | some type => type == .qualitative
  | none => change.operator.isWord

/-- A change that no reading of its own declaration allows. -/
inductive Contradiction where
  | stepOnQualitative (operator : Operator) (metric : String)
  | wordOnNumerical (operator : Operator) (metric : String)
  | noOperand (metric : String)
  deriving DecidableEq

def Contradiction.message : Contradiction → String
  | .stepOnQualitative operator metric =>
    "operator " ++ operator.symbol ++ " is numeric but " ++ metric ++ " is qualitative"
  | .wordOnNumerical operator metric =>
    "operator " ++ operator.symbol ++ " needs a qualitative metric, " ++ metric ++ " is numerical"
  | .noOperand metric => "state change on " ++ metric ++ " has neither value nor value_template"

def contradiction? (change : StateChange) : Option Contradiction :=
  if change.type = some .qualitative && change.operator.isStep then
    some (.stepOnQualitative change.operator change.metric)
  else if change.type = some .numerical && change.operator.isWord then
    some (.wordOnNumerical change.operator change.metric)
  else if change.value.isNone && change.template.isNone then some (.noOperand change.metric)
  else none

end StateChange

namespace Schema

/-- A literal operand. A truth value is taken for one or zero, and bytes for the number that they spell or the
text that they encode; anything else fails once for each kind of literal that it is not. -/
def literal : Value → Checked Literal
  | .int n => .valid (.int n)
  | .float x => .valid (.float x)
  | .text s => .valid (.text s)
  | .bool flag => .valid (.float (if flag then 1.0 else 0.0))
  | .bytes content => match spelled? content, Text.decodeUtf8 content with
    | some x, _ => .valid (.float x)
    | none, .ok s => .valid (.text s)
    | none, .error _ => .invalid [⟨["float"], .unreadableFloat⟩, ⟨["int"], .unreadableInt⟩,
        ⟨["str"], .notUnicode⟩, ⟨["list[str]"], .notList⟩]
  | value => match list text value with
    | .valid items => .valid (.texts items)
    | .invalid failures =>
      .invalid ([⟨["float"], .notFloat⟩, ⟨["int"], .notInt⟩, ⟨["str"], .notText⟩] ++
        failures.map fun failure => { failure with path := "list[str]" :: failure.path })

def changeMembers (members : Fields Value) : Checked StateChange :=
  StateChange.mk <$> required members "metric" text
    <*> required members "operator" (choice Operator.table)
    <*> optional members "value" none (nullable literal)
    <*> optional members "type" none (nullable (choice MetricType.table))
    <*> optional members "condition" none (nullable text)
    <*> optional members "multiplier" none (nullable text)
    <*> optional members "value_template" none (nullable text)

/-- A state change: its members first, then that they do not contradict each other. -/
def change : Value → Checked StateChange :=
  model fun members => (changeMembers members).andThen fun change =>
    match change.contradiction? with
    | some contradiction => fail (.rule contradiction.message)
    | none => .valid change

end Schema

end Workbench
