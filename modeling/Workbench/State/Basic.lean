import Workbench.Catalog.Basic
import Workbench.Catalog.Definition
import Workbench.Notice
import Workbench.Text.Upper

namespace Workbench

/-- The state vector: the current value of every metric, in a fixed order of metrics. -/
abbrev State := Fields Value

namespace State

/-- The value that a metric without a definition begins with. -/
def seed (qualitative : Bool) : Value :=
  if qualitative then .list [] else .float 0.0

def undefinedNotice (metric : String) : Notice :=
  .warning ("Catalog metric " ++ metric ++ " has no bootstrap definition; seeding default")

/-- The metrics of the catalog that have no definition. -/
def undefinedMetrics (definitions : List Definition) (catalog : Catalog) : Fields Bool :=
  catalog.referencedMetrics.filter fun entry => (Definition.find? definitions entry.1).isNone

/-- A fresh state vector: every defined metric at its initial value, then every other metric that the
catalog changes. -/
def initial (definitions : List Definition) (catalog : Option Catalog) : State :=
  let defined := Fields.ofPairs (definitions.map fun definition => (definition.id, definition.initial))
  match catalog with
  | none => defined
  | some catalog => defined ++ (undefinedMetrics definitions catalog).mapValues seed

/-- The notices that go with a fresh state vector, one for each seeded metric. -/
def initialNotices (definitions : List Definition) : Option Catalog → List Notice
  | none => []
  | some catalog => (undefinedMetrics definitions catalog).keys.map undefinedNotice

/-- A metric's value for display; one without a value shows as nothing. -/
def shown (state : State) (metric : String) : Value :=
  (Fields.get? state metric).getD .null

/-- The state in one line: every defined metric in capitals with its value. -/
def line (definitions : List Definition) (state : State) (separator : String) : String :=
  Text.join separator (definitions.map fun definition =>
    Text.upper definition.id ++ ": " ++ (shown state definition.id).gauge)

end State

end Workbench
