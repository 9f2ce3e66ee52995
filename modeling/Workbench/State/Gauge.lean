import Workbench.State.Basic

namespace Workbench

/-- How far a value lies on a scale, in percent; an empty or inverted scale has no percentage. -/
def percentOn {α : Type} [LT α] [DecidableLT α] [Sub α] [Div α] [Mul α] (hundred : α) (round : α → α)
    (low high shown : α) : Option α :=
  if low < high then some (round ((shown - low) / (high - low) * hundred)) else none

/-- A metric as a gauge shows it: bounded by its scale, with its place on the scale and whether it has
reached its threshold. -/
structure MetricGauge where
  id : String
  name : String
  value : Value
  display : String
  low : Float
  high : Float
  percent : Option Float
  critical : Bool
  deriving DecidableEq

/-- A text or list metric as it is shown. -/
structure QualitativeGauge where
  id : String
  name : String
  value : Value
  display : String
  deriving DecidableEq

/-- Everything the gauges show at one time. -/
structure Gauges where
  metrics : List MetricGauge
  qualitative : List QualitativeGauge
  deriving DecidableEq

def MetricGauge.toValue (gauge : MetricGauge) : Value := .object [
  ("id", .text gauge.id), ("name", .text gauge.name), ("value", gauge.value),
  ("display", .text gauge.display), ("range", .list [.float gauge.low, .float gauge.high]),
  ("percent", (gauge.percent.map Value.float).getD .null), ("critical", .bool gauge.critical)]

def QualitativeGauge.toValue (gauge : QualitativeGauge) : Value := .object [
  ("id", .text gauge.id), ("name", .text gauge.name), ("value", gauge.value),
  ("display", .text gauge.display)]

namespace Gauges

/-- The gauges as an event for a view. -/
def toValue (gauges : Gauges) : Value := .object [
  ("type", .text "hud_update"),
  ("metrics", .list (gauges.metrics.map MetricGauge.toValue)),
  ("qualitative", .list (gauges.qualitative.map QualitativeGauge.toValue))]

/-- A number for comparison with a threshold. Here a truth value counts as one or zero. -/
def levelOf : Value → Option Number
  | .bool flag => some (.whole (if flag then 1 else 0))
  | value => value.number?

def isCritical (threshold : Option Float) (shown : Value) : Bool :=
  match threshold, levelOf shown with
  | some threshold, some level => level.atLeast (.real threshold)
  | _, _ => false

def metric (definition : MetricDefinition) (state : State) : Except Overflow MetricGauge := do
  let (low, high) := definition.range
  let shown := (State.shown state definition.id).clampTo (some (.real low, .real high))
  let percent ← match shown.number? with
    | none => .ok none
    | some number =>
      if low < high then (number.toFloat).map fun x => percentOn 100.0 (Decimal.roundPlaces 1) low high x
      else .ok none
  return {
    id := definition.id, name := definition.name, value := shown, display := shown.gauge
    low := low, high := high, percent := percent, critical := isCritical definition.threshold shown }

def qualitativeGauge (definition : QualitativeDefinition) (state : State) : QualitativeGauge :=
  let value := State.shown state definition.id
  ⟨definition.id, definition.name, value, value.gauge⟩

def add (gauges : Gauges) (state : State) : Definition → Except Overflow Gauges
  | .metric definition => (metric definition state).map fun gauge =>
    { gauges with metrics := gauges.metrics ++ [gauge] }
  | .qualitative definition =>
    .ok { gauges with qualitative := gauges.qualitative ++ [qualitativeGauge definition state] }

/-- The gauges of all definitions. The state itself is never bounded. -/
def ofState (definitions : List Definition) (state : State) : Except Overflow Gauges :=
  definitions.foldlM (fun gauges definition => gauges.add state definition) ⟨[], []⟩

end Gauges

end Workbench
