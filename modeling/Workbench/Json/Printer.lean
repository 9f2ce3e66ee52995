import Workbench.Value.Basic
import Workbench.Decimal.Print
import Workbench.Decimal.Read
import Workbench.Text.Quoted
import Workbench.Text.Cut

namespace Workbench.Json

/-- A sixteen-bit unit in an escape. -/
def unitEscape (code : Nat) : List Char :=
  '\\' :: 'u' :: Text.hex 4 code

/-- Short escapes for the common controls, code escapes for all else outside printable ASCII. -/
def escapeChar (c : Char) : List Char :=
  if c = '"' then ['\\', '"']
  else if c = '\\' then ['\\', '\\']
  else if c = '\n' then ['\\', 'n']
  else if c = '\r' then ['\\', 'r']
  else if c = '\t' then ['\\', 't']
  else if c = '\x0C' then ['\\', 'f']
  else if c = '\x08' then ['\\', 'b']
  else if 0x20 ≤ c.toNat && c.toNat < 0x7F then [c]
  else if c.toNat < 0x10000 then unitEscape c.toNat
  else
    let offset := c.toNat - 0x10000
    unitEscape (0xD800 + offset / 0x400) ++ unitEscape (0xDC00 + offset % 0x400)

def string (s : String) : String :=
  String.ofList ('"' :: (s.toList.flatMap escapeChar ++ ['"']))

def float (x : Float) : String :=
  match Decimal.Binary.ofFloat x with
  | .nan => "NaN"
  | .infinite true => "-Infinity"
  | .infinite false => "Infinity"
  | .finite .. => Decimal.plain x

/-- How nested values are set: on one line, or one item a line with two blanks for each level. -/
inductive Style where
  | compact
  | indented
  deriving DecidableEq

/-- Items between brackets, as the style sets them at a depth. -/
def Style.enclose (style : Style) (depth : Nat) (opening closing : Char) (parts : List String) : String :=
  if parts.isEmpty then String.ofList [opening, closing]
  else match style with
    | .compact => String.ofList [opening] ++ Text.join ", " parts ++ String.ofList [closing]
    | .indented =>
      let margin (n : Nat) : String := String.ofList ('\n' :: List.replicate (2 * n) ' ')
      String.ofList [opening] ++ margin (depth + 1) ++ Text.join ("," ++ margin (depth + 1)) parts ++
        margin depth ++ String.ofList [closing]

mutual

/-- The JSON text of a value at a nesting depth. Bytes have none and are left empty. -/
def render (style : Style) (depth : Nat) : Value → String
  | .null => "null"
  | .bool true => "true"
  | .bool false => "false"
  | .int number => toString number
  | .float number => float number
  | .text content => string content
  | .bytes _ => ""
  | .list items => style.enclose depth '[' ']' (renderItems style (depth + 1) items)
  | .object members => style.enclose depth '{' '}' (renderMembers style (depth + 1) members)

def renderItems (style : Style) (depth : Nat) : List Value → List String
  | [] => []
  | item :: rest => render style depth item :: renderItems style depth rest

def renderMembers (style : Style) (depth : Nat) : List (String × Value) → List String
  | [] => []
  | (name, value) :: rest =>
    (string name ++ ": " ++ render style depth value) :: renderMembers style depth rest

end

/-- What keeps a value from having a JSON form: bytes, or a whole number of too many digits. -/
inductive Obstacle where
  | bytes
  | digits
  deriving DecidableEq

mutual

/-- The first obstacle within a value, at any depth. -/
def obstacle? : Value → Option Obstacle
  | .bytes _ => some .bytes
  | .int number => if Decimal.isVast number then some .digits else none
  | .list items => itemObstacle? items
  | .object members => memberObstacle? members
  | _ => none

def itemObstacle? : List Value → Option Obstacle
  | [] => none
  | item :: rest => obstacle? item <|> itemObstacle? rest

def memberObstacle? : List (String × Value) → Option Obstacle
  | [] => none
  | (_, value) :: rest => obstacle? value <|> memberObstacle? rest

end

/-- Whether a value has a JSON form. -/
def encodable (value : Value) : Bool :=
  (obstacle? value).isNone

/-- A value that has no JSON form, for what stands first in its way. -/
structure NotEncodable where
  obstacle : Obstacle := .bytes
  deriving DecidableEq

def NotEncodable.message (fault : NotEncodable) : String :=
  match fault.obstacle with
  | .bytes => "Object of type bytes is not JSON serializable"
  | .digits => Decimal.limitMessage ++ Decimal.limitAdvice

/-- The JSON text of a value. -/
def encode (style : Style) (value : Value) : Except NotEncodable String :=
  match obstacle? value with
  | none => .ok (render style 0 value)
  | some obstacle => .error ⟨obstacle⟩

end Workbench.Json
