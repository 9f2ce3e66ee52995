import Workbench.Number
import Workbench.Text.Decode

namespace Workbench

/-- What is wrong with a part of a document. -/
inductive Defect where
  | missing
  | notText
  | notUnicode
  | notList
  | notObject
  | notPair
  | notModel
  | notChoice
  | notFloat
  | unreadableFloat
  | notInt
  | unreadableInt
  | tooLong
  | noTag
  | unknownTag
  | rule (message : String)
  deriving DecidableEq

/-- The word for a kind of defect in a report. -/
def Defect.word : Defect → String
  | .missing => "missing"
  | .notText => "string_type"
  | .notUnicode => "string_unicode"
  | .notList => "list_type"
  | .notObject => "dict_type"
  | .notPair => "tuple_type"
  | .notModel => "model_type"
  | .notChoice => "literal_error"
  | .notFloat => "float_type"
  | .unreadableFloat => "float_parsing"
  | .notInt => "int_type"
  | .unreadableInt => "int_parsing"
  | .tooLong => "too_long"
  | .noTag => "union_tag_not_found"
  | .unknownTag => "union_tag_invalid"
  | .rule _ => "value_error"

/-- A defect and the path of member names and positions that leads to it. -/
structure Failure where
  path : List String
  defect : Defect
  deriving DecidableEq

/-- A failure as an entry of a report. -/
def Failure.describe (failure : Failure) : Value :=
  .object ([("loc", .list (failure.path.map .text)), ("type", .text failure.defect.word)] ++
    match failure.defect with
    | .rule message => [("msg", .text ("Value error, " ++ message))]
    | _ => [])

/-- The outcome of a check: a value, or all failures in the order in which they were found. -/
inductive Checked (α : Type) where
  | valid (value : α)
  | invalid (failures : List Failure)

namespace Checked

variable {α β : Type}

def map (f : α → β) : Checked α → Checked β
  | valid value => valid (f value)
  | invalid failures => invalid failures

/-- Check two parts and keep the failures of both. -/
def seq (f : Checked (α → β)) (x : Unit → Checked α) : Checked β :=
  match f, x () with
  | valid f, valid value => valid (f value)
  | valid _, invalid failures => invalid failures
  | invalid failures, valid _ => invalid failures
  | invalid first, invalid second => invalid (first ++ second)

instance : Applicative Checked where
  pure := valid
  seq := seq

/-- Place the failures of a part below its name. -/
def under (name : String) : Checked α → Checked α
  | valid value => valid value
  | invalid failures => invalid (failures.map fun failure => { failure with path := name :: failure.path })

/-- A further check, made only of what is valid so far. -/
def andThen (x : Checked α) (f : α → Checked β) : Checked β :=
  match x with
  | valid value => f value
  | invalid failures => invalid failures

def toExcept : Checked α → Except (List Failure) α
  | valid value => .ok value
  | invalid failures => .error failures

end Checked

namespace Schema

variable {α : Type}

def fail (defect : Defect) : Checked α :=
  .invalid [⟨[], defect⟩]

/-- A member that must be there. -/
def required (members : Fields Value) (name : String) (check : Value → Checked α) : Checked α :=
  match members.get? name with
  | none => .invalid [⟨[name], .missing⟩]
  | some value => (check value).under name

/-- A member with a default. -/
def optional (members : Fields Value) (name : String) (default : α) (check : Value → Checked α) : Checked α :=
  match members.get? name with
  | none => .valid default
  | some value => (check value).under name

/-- A value that may be `null`. -/
def nullable (check : Value → Checked α) : Value → Checked (Option α)
  | .null => .valid none
  | value => (check value).map some

/-- A text. Bytes are taken for the text that they encode. -/
def text : Value → Checked String
  | .text content => .valid content
  | .bytes content => match Text.decodeUtf8 content with
    | .ok content => .valid content
    | .error _ => fail .notUnicode
  | _ => fail .notText

/-- An object whose members `check` looks at. -/
def model (check : Fields Value → Checked α) : Value → Checked α
  | .object members => check members
  | _ => fail .notModel

/-- One of a fixed set of words. -/
def choice (table : List (String × α)) : Value → Checked α
  | .text word => match Fields.get? table word with
    | some meaning => .valid meaning
    | none => fail .notChoice
  | _ => fail .notChoice

/-- The items of a list from a position on. -/
def itemsFrom (check : Value → Checked α) : Nat → List Value → Checked (List α)
  | _, [] => .valid []
  | position, item :: rest =>
    List.cons <$> (check item).under (toString position) <*> itemsFrom check (position + 1) rest

def list (check : Value → Checked α) : Value → Checked (List α)
  | .list items => itemsFrom check 0 items
  | _ => fail .notList

/-- The members of an object in their order. -/
def membersOf (check : Value → Checked α) : List (String × Value) → Checked (Fields α)
  | [] => .valid []
  | (name, value) :: rest =>
    (fun head tail => (name, head) :: tail) <$> (check value).under name <*> membersOf check rest

def dictionary (check : Value → Checked α) : Value → Checked (Fields α)
  | .object members => membersOf check members
  | _ => fail .notObject

def any (value : Value) : Checked Value :=
  .valid value

/-- The number that bytes spell. -/
def spelled? (content : List UInt8) : Option Float :=
  (Text.decodeUtf8 content).toOption.bind Decimal.readAscii?

/-- A floating point number. Whole numbers, truth values and the text of a number are taken for one. -/
def float : Value → Checked Float
  | .float x => .valid x
  | .int n => match Number.ofWhole n with
    | .ok x => .valid x
    | .error _ => fail .notFloat
  | .bool flag => .valid (if flag then 1.0 else 0.0)
  | .text content => match Decimal.readAscii? content with
    | some x => .valid x
    | none => fail .unreadableFloat
  | .bytes content => match spelled? content with
    | some x => .valid x
    | none => fail .unreadableFloat
  | _ => fail .notFloat

/-- Two floating point numbers. -/
def floatPair : Value → Checked (Float × Float)
  | .list [] => .invalid [⟨["0"], .missing⟩, ⟨["1"], .missing⟩]
  | .list [low] =>
    (fun low high => (low, high)) <$> (float low).under "0" <*> .invalid [⟨["1"], .missing⟩]
  | .list [low, high] => (fun low high => (low, high)) <$> (float low).under "0" <*> (float high).under "1"
  | .list _ => fail .tooLong
  | _ => fail .notPair

end Schema

end Workbench
