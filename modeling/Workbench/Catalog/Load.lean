import Workbench.Catalog.Basic
import Workbench.Catalog.Definition
import Workbench.Json.Encoding
import Workbench.Value.Display

namespace Workbench

/-- What is said of a document that cannot be read. Only a fault of form is said to be one of JSON. -/
def Json.ReadFault.messageFor (name : String) : Json.ReadFault → String
  | .malformed fault =>
    if fault.reason.isFormal then name ++ " is not valid JSON: " ++ fault.message else fault.message
  | .undecodable fault => fault.message

/-- Why a catalog document is refused. -/
inductive CatalogFault where
  | unreadable (fault : Json.ReadFault)
  | notObject
  | unsupportedVersion (version : Value)
  | malformed (failures : List Failure)

def CatalogFault.message : CatalogFault → String
  | .unreadable fault => fault.messageFor "Catalog"
  | .notObject => "Catalog document must be an object"
  | .unsupportedVersion version =>
    if version.isWritable then "Unsupported catalog schema_version: " ++ version.display
    else Decimal.limitMessage ++ Decimal.limitAdvice
  | .malformed _ => "Malformed utility catalog"

namespace Catalog

/-- Whether a value equals the supported version; a truth value and a floating point number can. -/
def isSupported : Value → Bool
  | .int n => n == supportedVersion
  | .float x => x == Float.ofInt supportedVersion
  | .bool flag => flag
  | _ => false

/-- The sections stand under a member of their own, or are all members but the version. -/
def sectionsOf (members : Fields Value) : Value :=
  match Fields.get? members "sections" with
  | some sections => sections
  | none => .object (members.filter fun member => member.1 != "schema_version")

def ofValue : Value → Except CatalogFault Catalog
  | .object members =>
    let version := (Fields.get? members "schema_version").getD (.int supportedVersion)
    if isSupported version then
      match (Schema.dictionary Schema.catalogSection (sectionsOf members)).under "sections" with
      | .valid sections => .ok ⟨supportedVersion, sections⟩
      | .invalid failures => .error (.malformed failures)
    else .error (.unsupportedVersion version)
  | _ => .error .notObject

/-- The catalog of a document: a text, bytes or a value read already. -/
def load (document : Value) : Except CatalogFault Catalog :=
  match Json.read document with
  | .error fault => .error (.unreadable fault)
  | .ok value => ofValue value

end Catalog

/-- Why a bootstrap document yields no state definitions. -/
inductive DefinitionFault where
  | unreadable (fault : Json.ReadFault)
  | notObject
  | malformed (failures : List Failure)
  | notEntries
  | duplicate (id : String)

def DefinitionFault.message : DefinitionFault → String
  | .unreadable fault => fault.messageFor "Bootstrap"
  | .notObject => "Bootstrap document must be an object"
  | .malformed _ => "Malformed state definitions"
  | .notEntries => "Malformed state definitions"
  | .duplicate id => "Duplicate state definition id: " ++ id

namespace Definition

/-- A member of an object, with `fallback` for one that is absent or counts as false. -/
def memberOr (fallback : Value) (value : Value) (name : String) : Except DefinitionFault Value :=
  match value with
  | .object members =>
    let member := (Fields.get? members name).getD .null
    .ok (if member.truthy then member else fallback)
  | _ => .error .notObject

/-- Check entries one by one; the first bad one ends it. -/
def checkEntries {α : Type} (check : Fields Value → Checked α) : List Value → Except DefinitionFault (List α)
  | [] => .ok []
  | .object members :: rest =>
    match check members with
    | .invalid failures => .error (.malformed failures)
    | .valid entry => (checkEntries check rest).map (entry :: ·)
  | _ :: _ => .error .notEntries

/-- The entries of a list. An empty text or object has none, and nothing else can be gone through. -/
def entriesOf {α : Type} (check : Fields Value → Checked α) : Value → Except DefinitionFault (List α)
  | .list items => checkEntries check items
  | _ => .error .notEntries

def firstDuplicate? : List String → List String → Option String
  | _, [] => none
  | seen, id :: rest => if seen.contains id then some id else firstDuplicate? (id :: seen) rest

/-- The metrics of a bootstrap document, then its qualitative metrics. Ids are distinct. -/
def ofValue (value : Value) : Except DefinitionFault (List Definition) := do
  let metrics ← memberOr (.list []) (← memberOr (.object []) value "SYSTEM_STATE_METRICS") "metrics"
  let states ← memberOr (.list []) (← memberOr (.object []) value "SYSTEM_STATE_QUALITATIVE") "states"
  let metrics ← entriesOf Schema.metricDefinition metrics
  let states ← entriesOf Schema.qualitativeDefinition states
  let definitions := metrics.map Definition.metric ++ states.map Definition.qualitative
  match firstDuplicate? [] (definitions.map Definition.id) with
  | some id => throw (.duplicate id)
  | none => return definitions

/-- The definitions of a document: a text, bytes or a value read already. -/
def load (document : Value) : Except DefinitionFault (List Definition) :=
  match Json.read document with
  | .error fault => .error (.unreadable fault)
  | .ok value => ofValue value

end Definition

end Workbench
