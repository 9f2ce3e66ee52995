import Workbench.Schema

namespace Workbench

/-- A metric that is a number on a scale. -/
structure MetricDefinition where
  id : String
  name : String
  initial : Float
  range : Float × Float
  description : String
  notes : Option String
  threshold : Option Float
  deriving DecidableEq

/-- The initial content of a qualitative metric. -/
inductive Content where
  | text (s : String)
  | texts (items : List String)
  deriving DecidableEq

def Content.toValue : Content → Value
  | .text s => .text s
  | .texts items => .list (items.map .text)

/-- A metric that is a text or a list of texts. -/
structure QualitativeDefinition where
  id : String
  name : String
  initial : Content
  description : String
  deriving DecidableEq

/-- A metric of the state vector, as the bootstrap declares it. -/
inductive Definition where
  | metric (definition : MetricDefinition)
  | qualitative (definition : QualitativeDefinition)
  deriving DecidableEq

namespace Definition

def id : Definition → String
  | .metric definition => definition.id
  | .qualitative definition => definition.id

def initial : Definition → Value
  | .metric definition => .float definition.initial
  | .qualitative definition => definition.initial.toValue

def find? (definitions : List Definition) (id : String) : Option Definition :=
  definitions.find? fun definition => definition.id = id

end Definition

namespace Schema

def metricDefinition (members : Fields Value) : Checked MetricDefinition :=
  MetricDefinition.mk <$> required members "id" text
    <*> optional members "name" "" text
    <*> optional members "value_initial" 0.0 float
    <*> optional members "range" (0.0, 1.0) floatPair
    <*> optional members "description" "" text
    <*> optional members "dynamics_notes" none (nullable text)
    <*> optional members "critical_threshold" none (nullable float)

/-- A text or a list of texts; anything else fails once for each of the two. -/
def content : Value → Checked Content
  | .text s => .valid (.text s)
  | .bytes bytes => match Text.decodeUtf8 bytes with
    | .ok s => .valid (.text s)
    | .error _ => .invalid [⟨["str"], .notUnicode⟩, ⟨["list[str]"], .notList⟩]
  | value => match list text value with
    | .valid items => .valid (.texts items)
    | .invalid failures =>
      .invalid (⟨["str"], .notText⟩ ::
        failures.map fun failure => { failure with path := "list[str]" :: failure.path })

def qualitativeDefinition (members : Fields Value) : Checked QualitativeDefinition :=
  QualitativeDefinition.mk <$> required members "id" text
    <*> optional members "name" "" text
    <*> optional members "initial_value" (.text "") content
    <*> optional members "description" "" text

end Schema

end Workbench
