import Workbench.Json.Printer
import Workbench.Json.Parser
import Workbench.Text.Decode

namespace Workbench

/-- What an entry of the file store holds. -/
inductive FileContent where
  | text (s : String)
  | blob (bytes : List UInt8)
  | array (items : List Value)
  deriving DecidableEq

namespace FileContent

def toValue : FileContent → Value
  | .text s => .text s
  | .blob bytes => .bytes bytes
  | .array items => .list items

/-- The content that a value is; numbers, truth values, objects and nothing are none. -/
def ofValue? : Value → Option FileContent
  | .text s => some (.text s)
  | .bytes bytes => some (.blob bytes)
  | .list items => some (.array items)
  | _ => none

/-- Content as text: arrays as indented JSON, blobs by UTF-8 with replacement characters. -/
def read : FileContent → Except Json.NotEncodable String
  | .text s => .ok s
  | .blob bytes => .ok (Text.decodeUtf8Lossy bytes)
  | .array items => Json.encode .indented (.list items)

/-- The size in bytes; an array counts the characters of its compact JSON text. -/
def size : FileContent → Except Json.NotEncodable Nat
  | .text s => .ok (Text.utf8Length s)
  | .blob bytes => .ok bytes.length
  | .array items => (Json.encode .compact (.list items)).map String.length

end FileContent

/-- The file store: a flat map from slash-delimited paths to content. -/
abbrev Store := Fields FileContent

/-- A value that the store does not take. -/
structure UnsupportedContent where
  path : String
  kind : String
  deriving DecidableEq

def UnsupportedContent.message (fault : UnsupportedContent) : String :=
  "Unsupported content for " ++ fault.path ++ ": " ++ fault.kind

/-- Why an entry cannot be read as JSON. -/
inductive StoreReadFault where
  | absent (path : String)
  | notEncodable (fault : Json.NotEncodable)
  | malformed (fault : Json.SyntaxFault)
  deriving DecidableEq

def StoreReadFault.message : StoreReadFault → String
  | .absent path => "No such entry in path store: " ++ path
  | .notEncodable fault => fault.message
  | .malformed fault => fault.message

namespace Store

/-- The path of the generated preview page. -/
def previewRoot : String := "/0index.html"

/-- The paths in code point order. -/
def paths (store : Store) : List String :=
  (Fields.keys store).mergeSort fun a b => decide (a ≤ b)

/-- Store a value at a path, if it is content. -/
def set (store : Store) (path : String) (value : Value) : Except UnsupportedContent Store :=
  match FileContent.ofValue? value with
  | some content => .ok (Fields.put store path content)
  | none => .error ⟨path, value.kindName⟩

def ofPairs : List (String × Value) → Except UnsupportedContent Store :=
  List.foldlM (fun store entry => set store entry.1 entry.2) []

/-- The text view of an entry, if there is one. -/
def readText (store : Store) (path : String) : Except Json.NotEncodable (Option String) :=
  match Fields.get? store path with
  | none => .ok none
  | some content => content.read.map some

def readJson (store : Store) (path : String) : Except StoreReadFault Value :=
  match readText store path with
  | .error fault => .error (.notEncodable fault)
  | .ok none => .error (.absent path)
  | .ok (some text) => (Json.parse text).mapError .malformed

/-- The size of an entry; an absent one has size zero. -/
def sizeOf (store : Store) (path : String) : Except Json.NotEncodable Nat :=
  match Fields.get? store path with
  | none => .ok 0
  | some content => content.size

end Store

end Workbench
