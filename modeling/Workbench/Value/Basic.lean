import Workbench.Fields

namespace Workbench

/-- A document value. Whole numbers and floating point numbers are different values, objects keep
the order of their members, and byte strings stand beside text. -/
inductive Value where
  | null
  | bool (flag : Bool)
  | int (number : Int)
  | float (number : Float)
  | text (content : String)
  | bytes (content : List UInt8)
  | list (items : List Value)
  | object (members : List (String × Value))
  deriving Inhabited

namespace Value

/-- The name by which messages call the kind of a value. -/
def kindName : Value → String
  | .null => "NoneType"
  | .bool _ => "bool"
  | .int _ => "int"
  | .float _ => "float"
  | .text _ => "str"
  | .bytes _ => "bytes"
  | .list _ => "list"
  | .object _ => "dict"

/-- Zero, nothing and emptiness count as false. -/
def truthy : Value → Bool
  | .null => false
  | .bool flag => flag
  | .int number => number != 0
  | .float number => !(number == 0.0)
  | .text content => content != ""
  | .bytes content => !content.isEmpty
  | .list items => !items.isEmpty
  | .object members => !members.isEmpty

/-- A member of an object, looked up by name. -/
def member? : Value → String → Option Value
  | .object members, name => Fields.get? members name
  | _, _ => none

def text? : Value → Option String
  | .text content => some content
  | _ => none

def list? : Value → Option (List Value)
  | .list items => some items
  | _ => none

def object? : Value → Option (Fields Value)
  | .object members => some members
  | _ => none

/-- An optional text, with nothing as `null`. -/
def ofText? : Option String → Value
  | some content => .text content
  | none => .null

mutual

protected def decEq : (a b : Value) → Decidable (a = b)
  | .list a, .list b => match decEqItems a b with
    | isTrue same => isTrue (same ▸ rfl)
    | isFalse different => isFalse fun e => different (by cases e; rfl)
  | .object a, .object b => match decEqMembers a b with
    | isTrue same => isTrue (same ▸ rfl)
    | isFalse different => isFalse fun e => different (by cases e; rfl)
  | .null, b => by
    cases b <;> first | exact isTrue rfl | exact isFalse (fun e => by cases e)
  | .bool a, b => by
    cases b <;> first
      | exact decidable_of_iff (a = _) ⟨fun h => h ▸ rfl, fun e => by cases e; rfl⟩
      | exact isFalse (fun e => by cases e)
  | .int a, b => by
    cases b <;> first
      | exact decidable_of_iff (a = _) ⟨fun h => h ▸ rfl, fun e => by cases e; rfl⟩
      | exact isFalse (fun e => by cases e)
  | .float a, b => by
    cases b <;> first
      | exact decidable_of_iff (a = _) ⟨fun h => h ▸ rfl, fun e => by cases e; rfl⟩
      | exact isFalse (fun e => by cases e)
  | .text a, b => by
    cases b <;> first
      | exact decidable_of_iff (a = _) ⟨fun h => h ▸ rfl, fun e => by cases e; rfl⟩
      | exact isFalse (fun e => by cases e)
  | .bytes a, b => by
    cases b <;> first
      | exact decidable_of_iff (a = _) ⟨fun h => h ▸ rfl, fun e => by cases e; rfl⟩
      | exact isFalse (fun e => by cases e)
  | .list _, .null | .list _, .bool _ | .list _, .int _ | .list _, .float _ | .list _, .text _
  | .list _, .bytes _ | .list _, .object _ => isFalse fun e => by cases e
  | .object _, .null | .object _, .bool _ | .object _, .int _ | .object _, .float _
  | .object _, .text _ | .object _, .bytes _ | .object _, .list _ => isFalse fun e => by cases e

def decEqItems : (a b : List Value) → Decidable (a = b)
  | [], [] => isTrue rfl
  | [], _ :: _ => isFalse fun e => by cases e
  | _ :: _, [] => isFalse fun e => by cases e
  | x :: xs, y :: ys => match Value.decEq x y, decEqItems xs ys with
    | isTrue head, isTrue tail => isTrue (by rw [head, tail])
    | isFalse head, _ => isFalse fun e => head (by cases e; rfl)
    | _, isFalse tail => isFalse fun e => tail (by cases e; rfl)

def decEqMembers : (a b : List (String × Value)) → Decidable (a = b)
  | [], [] => isTrue rfl
  | [], _ :: _ => isFalse fun e => by cases e
  | _ :: _, [] => isFalse fun e => by cases e
  | (k, x) :: xs, (l, y) :: ys => match Value.decEq x y, decEqMembers xs ys with
    | isTrue head, isTrue tail =>
      if name : k = l then isTrue (by rw [name, head, tail])
      else isFalse fun e => name (by cases e; rfl)
    | isFalse head, _ => isFalse fun e => head (by cases e; rfl)
    | _, isFalse tail => isFalse fun e => tail (by cases e; rfl)

end

instance : DecidableEq Value := Value.decEq

end Value

end Workbench
