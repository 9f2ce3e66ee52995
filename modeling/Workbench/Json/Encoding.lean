import Workbench.Text.Decode
import Workbench.Json.Parser

namespace Workbench.Json

/-- The encodings in which a document may arrive as bytes. -/
inductive Encoding where
  | utf8 (marked : Bool)
  | utf16 (bigEndian : Bool) (marked : Bool)
  | utf32 (bigEndian : Bool) (marked : Bool)
  deriving DecidableEq

/-- A byte order mark decides; without one, the zero bytes among the first four do. -/
def Encoding.detect : List UInt8 → Encoding
  | 0x00 :: 0x00 :: 0xFE :: 0xFF :: _ => .utf32 true true
  | 0xFF :: 0xFE :: 0x00 :: 0x00 :: _ => .utf32 false true
  | 0xFE :: 0xFF :: _ => .utf16 true true
  | 0xFF :: 0xFE :: _ => .utf16 false true
  | 0xEF :: 0xBB :: 0xBF :: _ => .utf8 true
  | a :: b :: c :: d :: _ =>
    if a = 0 then (if b = 0 then .utf32 true false else .utf16 true false)
    else if b = 0 then (if c = 0 && d = 0 then .utf32 false false else .utf16 false false)
    else .utf8 false
  | [a, b] => if a = 0 then .utf16 true false else if b = 0 then .utf16 false false else .utf8 false
  | _ => .utf8 false

/-- The characters of a document. Positions count the byte order mark, except that of UTF-8. -/
def Encoding.decode (bytes : List UInt8) : Encoding → List Text.Piece
  | .utf8 marked => Text.utf8From true 0 none (bytes.drop (if marked then 3 else 0))
  | .utf16 bigEndian marked =>
    let skip := if marked then 2 else 0
    let unit (a b : UInt8) : Nat := if bigEndian then a.toNat * 256 + b.toNat else b.toNat * 256 + a.toNat
    Text.utf16From (if bigEndian then "utf-16-be" else "utf-16-le") unit skip none (bytes.drop skip)
  | .utf32 bigEndian marked =>
    let skip := if marked then 4 else 0
    let unit (a b c d : UInt8) : Nat :=
      if bigEndian then ((a.toNat * 256 + b.toNat) * 256 + c.toNat) * 256 + d.toNat
      else ((d.toNat * 256 + c.toNat) * 256 + b.toNat) * 256 + a.toNat
    Text.utf32From (if bigEndian then "utf-32-be" else "utf-32-le") unit skip (bytes.drop skip)

/-- Why a document given as text or bytes cannot be read. -/
inductive ReadFault where
  | malformed (fault : SyntaxFault)
  | undecodable (fault : Text.DecodeFault)
  deriving DecidableEq

def ReadFault.message : ReadFault → String
  | .malformed fault => fault.message
  | .undecodable fault => fault.message

def parseBytes (bytes : List UInt8) : Except ReadFault Value :=
  match Text.strict ((Encoding.detect bytes).decode bytes) with
  | .error fault => .error (.undecodable fault)
  | .ok cs => (documentBody cs).mapError fun stop => .malformed (stop.locate cs)

def parseText (s : String) : Except ReadFault Value :=
  (parse s).mapError .malformed

/-- A document on its way in: a text or bytes are read, any other value is taken as it is. -/
def read : Value → Except ReadFault Value
  | .text content => parseText content
  | .bytes content => parseBytes content
  | value => .ok value

end Workbench.Json
