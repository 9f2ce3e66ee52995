import Workbench.Text.Quoted

namespace Workbench.Text

inductive DecodeReason where
  | startByte
  | continuationByte
  | endOfData
  | truncated
  | outOfRange
  | invalid
  deriving DecidableEq

def DecodeReason.message : DecodeReason → String
  | .startByte => "invalid start byte"
  | .continuationByte => "invalid continuation byte"
  | .endOfData => "unexpected end of data"
  | .truncated => "truncated data"
  | .outOfRange => "code point not in range(0x110000)"
  | .invalid => "invalid utf-8"

/-- Bytes that stand for no character: `count` of them from `start` on, `byte` the first. -/
structure DecodeFault where
  codec : String
  reason : DecodeReason
  start : Nat
  count : Nat
  byte : UInt8
  deriving DecidableEq

def DecodeFault.message (fault : DecodeFault) : String :=
  let place :=
    if fault.count = 1 then
      "byte 0x" ++ String.ofList (hex 2 fault.byte.toNat) ++ " in position " ++ toString fault.start
    else "bytes in position " ++ toString fault.start ++ "-" ++ toString (fault.start + fault.count - 1)
  "'" ++ fault.codec ++ "' codec can't decode " ++ place ++ ": " ++ fault.reason.message

/-- One step of decoding: a character, or a run of bytes that stands for none. -/
inductive Piece where
  | char (c : Char)
  | fault (fault : DecodeFault)
  deriving DecidableEq

/-- The characters of a decoded text, or its first fault. -/
def strict : List Piece → Except DecodeFault (List Char)
  | [] => .ok []
  | .char c :: rest => (strict rest).map (c :: ·)
  | .fault fault :: _ => .error fault

/-- The characters of a decoded text with the replacement character for every fault. -/
def lossy (pieces : List Piece) : List Char :=
  pieces.map fun
    | .char c => c
    | .fault _ => '\uFFFD'

/-- A character begun in UTF-8: its code so far, the continuation bytes still to come, the bounds on
the next one, the bytes seen and the first of them. -/
structure Begun where
  code : Nat
  need : Nat
  low : Nat
  high : Nat
  seen : Nat
  lead : UInt8

/-- Whether the bytes seen can only become half of a surrogate pair. -/
def Begun.surrogate (begun : Begun) : Bool :=
  begun.lead == 0xED && begun.seen == 2 && 0x360 ≤ begun.code

/-- A fault whose bytes end just before `position`. -/
def Begun.fault (begun : Begun) (position : Nat) (reason : DecodeReason) : Piece :=
  let start := position - begun.seen
  if begun.surrogate then .fault ⟨"utf-8", .continuationByte, start, 1, begun.lead⟩
  else .fault ⟨"utf-8", reason, start, begun.seen, begun.lead⟩

/-- The state after a byte that must begin a character. The shortest form is required, and codes end at
U+10FFFF; surrogates are admitted on demand only. -/
def startUtf8 (surrogates : Bool) (position : Nat) (byte : UInt8) : List Piece × Option Begun :=
  let b := byte.toNat
  if b < 0x80 then ([.char (Char.ofNat b)], none)
  else if 0xC2 ≤ b && b ≤ 0xDF then ([], some ⟨b - 0xC0, 1, 0x80, 0xBF, 1, byte⟩)
  else if 0xE0 ≤ b && b ≤ 0xEF then
    let low := if b = 0xE0 then 0xA0 else 0x80
    let high := if b = 0xED && !surrogates then 0x9F else 0xBF
    ([], some ⟨b - 0xE0, 2, low, high, 1, byte⟩)
  else if 0xF0 ≤ b && b ≤ 0xF4 then
    let low := if b = 0xF0 then 0x90 else 0x80
    let high := if b = 0xF4 then 0x8F else 0xBF
    ([], some ⟨b - 0xF0, 3, low, high, 1, byte⟩)
  else ([.fault ⟨"utf-8", .startByte, position, 1, byte⟩], none)

/-- A code point; half of a surrogate pair becomes the replacement character. -/
def charOfCode (code : Nat) : Char :=
  if 0xD800 ≤ code && code < 0xE000 then '\uFFFD' else Char.ofNat code

/-- Decode UTF-8 from a position on, with a character possibly begun. A byte that does not continue it
is looked at again as the start of the next. -/
def utf8From (surrogates : Bool) : Nat → Option Begun → List UInt8 → List Piece
  | _, none, [] => []
  | position, some begun, [] => [begun.fault position .endOfData]
  | position, none, byte :: rest =>
    (startUtf8 surrogates position byte).1 ++
      utf8From surrogates (position + 1) (startUtf8 surrogates position byte).2 rest
  | position, some begun, byte :: rest =>
    if begun.low ≤ byte.toNat && byte.toNat ≤ begun.high then
      let code := begun.code * 64 + (byte.toNat - 0x80)
      if begun.need = 1 then .char (charOfCode code) :: utf8From surrogates (position + 1) none rest
      else
        utf8From surrogates (position + 1)
          (some ⟨code, begun.need - 1, 0x80, 0xBF, begun.seen + 1, begun.lead⟩) rest
    else
      begun.fault position .continuationByte :: (startUtf8 surrogates position byte).1 ++
        utf8From surrogates (position + 1) (startUtf8 surrogates position byte).2 rest

/-- Decode a text in UTF-8. -/
def decodeUtf8 (bytes : List UInt8) : Except DecodeFault String :=
  (strict (utf8From false 0 none bytes)).map String.ofList

/-- Decode a text in UTF-8 with the replacement character for whatever is malformed. -/
def decodeUtf8Lossy (bytes : List UInt8) : String :=
  String.ofList (lossy (utf8From false 0 none bytes))

def utf8Length (s : String) : Nat :=
  s.utf8ByteSize

def encodeUtf8 (s : String) : List UInt8 :=
  s.toUTF8.toList

/-- Two-byte units, in either byte order, from a position on. Half of a surrogate pair waits for its
other half. -/
def utf16From (codec : String) (unit : UInt8 → UInt8 → Nat) : Nat → Option Nat → List UInt8 → List Piece
  | _, none, [] => []
  | _, some _, [] => [.char '\uFFFD']
  | position, none, [byte] => [.fault ⟨codec, .truncated, position, 1, byte⟩]
  | position, some _, [byte] => [.char '\uFFFD', .fault ⟨codec, .truncated, position, 1, byte⟩]
  | position, pending, a :: b :: rest =>
    let code := unit a b
    let isHigh := 0xD800 ≤ code && code < 0xDC00
    let isLow := 0xDC00 ≤ code && code < 0xE000
    let pieces := match pending with
      | some high =>
        if isLow then [Piece.char (Char.ofNat (0x10000 + (high - 0xD800) * 0x400 + (code - 0xDC00)))]
        else if isHigh then [.char '\uFFFD']
        else [.char '\uFFFD', .char (charOfCode code)]
      | none => if isHigh then [] else [.char (charOfCode code)]
    pieces ++ utf16From codec unit (position + 2) (if isHigh then some code else none) rest

/-- Four-byte units, in either byte order, from a position on. -/
def utf32From (codec : String) (unit : UInt8 → UInt8 → UInt8 → UInt8 → Nat) : Nat → List UInt8 → List Piece
  | _, [] => []
  | position, a :: b :: c :: d :: rest =>
    let code := unit a b c d
    let piece :=
      if code < 0x110000 then Piece.char (charOfCode code)
      else .fault ⟨codec, .outOfRange, position, 4, a⟩
    piece :: utf32From codec unit (position + 4) rest
  | position, byte :: rest => [.fault ⟨codec, .truncated, position, rest.length + 1, byte⟩]

end Workbench.Text
