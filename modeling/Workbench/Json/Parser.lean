import Workbench.Value.Basic
import Workbench.Decimal.Read

namespace Workbench.Json

/-- What a reader expected or refused. -/
inductive Reason where
  | value
  | extraData
  | memberName
  | colon
  | comma
  | controlCharacter
  | unterminated
  | escape
  | codeEscape
  | byteOrderMark
  | tooManyDigits (count : Nat)
  deriving DecidableEq

def Reason.message : Reason → String
  | .value => "Expecting value"
  | .extraData => "Extra data"
  | .memberName => "Expecting property name enclosed in double quotes"
  | .colon => "Expecting ':' delimiter"
  | .comma => "Expecting ',' delimiter"
  | .controlCharacter => "Invalid control character at"
  | .unterminated => "Unterminated string starting at"
  | .escape => "Invalid \\escape"
  | .codeEscape => "Invalid \\uXXXX escape"
  | .byteOrderMark => "Unexpected UTF-8 BOM (decode using utf-8-sig)"
  | .tooManyDigits count =>
    Decimal.limitMessage ++ ": value has " ++ toString count ++ " digits" ++ Decimal.limitAdvice

/-- Whether a document is refused for its form, and not for a whole number of too many digits. -/
def Reason.isFormal : Reason → Bool
  | .tooManyDigits _ => false
  | _ => true

/-- Where reading stopped, counted in characters from the end of the document. -/
structure Stop where
  reason : Reason
  remaining : Nat

/-- A document that is refused, with the offset, line and column of its first fault. Lines and columns
count from one, offsets from zero. -/
structure SyntaxFault where
  reason : Reason
  line : Nat
  column : Nat
  offset : Nat
  deriving DecidableEq

/-- The place is told of faults of form only. -/
def SyntaxFault.message (fault : SyntaxFault) : String :=
  if fault.reason.isFormal then
    fault.reason.message ++ ": line " ++ toString fault.line ++ " column " ++ toString fault.column ++
      " (char " ++ toString fault.offset ++ ")"
  else fault.reason.message

/-- Turn a stop into a place in the document. -/
def Stop.locate (document : List Char) (stop : Stop) : SyntaxFault :=
  let before := document.take (document.length - stop.remaining)
  { reason := stop.reason
    line := before.count '\n' + 1
    column := (before.reverse.takeWhile (· != '\n')).length + 1
    offset := before.length }

abbrev Step (α : Type) := Except Stop (α × List Char)

def stopAt {α : Type} (reason : Reason) (rest : List Char) : Except Stop α :=
  .error ⟨reason, rest.length⟩

def isSpace (c : Char) : Bool :=
  c == ' ' || c == '\t' || c == '\n' || c == '\r'

def skipSpace (cs : List Char) : List Char :=
  cs.dropWhile isSpace

def hexDigit? (c : Char) : Option Nat :=
  if '0' ≤ c && c ≤ '9' then some (c.toNat - 48)
  else if 'a' ≤ c && c ≤ 'f' then some (c.toNat - 87)
  else if 'A' ≤ c && c ≤ 'F' then some (c.toNat - 55)
  else none

def hexQuad? (a b c d : Char) : Option Nat := do
  let w ← hexDigit? a
  let x ← hexDigit? b
  let y ← hexDigit? c
  let z ← hexDigit? d
  return ((w * 16 + x) * 16 + y) * 16 + z

def simpleEscape? : Char → Option Char
  | '"' => some '"'
  | '\\' => some '\\'
  | '/' => some '/'
  | 'b' => some '\x08'
  | 'f' => some '\x0C'
  | 'n' => some '\n'
  | 'r' => some '\r'
  | 't' => some '\t'
  | _ => none

/-- A code point; half of a surrogate pair on its own becomes the replacement character. -/
def codeChar (code : Nat) : Char :=
  if 0xD800 ≤ code && code < 0xE000 then '\uFFFD' else Char.ofNat code

def isHighSurrogate (code : Nat) : Bool := 0xD800 ≤ code && code < 0xDC00

def isLowSurrogate (code : Nat) : Bool := 0xDC00 ≤ code && code < 0xE000

/-- The rest of a string after its opening quote, which stood `opening` characters before the end. A
code escape is complete only when a character follows it. -/
def stringTail (opening : Nat) : List Char → List Char → Step String
  | _, [] => .error ⟨.unterminated, opening⟩
  | done, '"' :: rest => .ok (String.ofList done.reverse, rest)
  | _, '\\' :: [] => .error ⟨.unterminated, opening⟩
  | done, '\\' :: 'u' :: a :: b :: c :: d :: '\\' :: 'u' :: e :: f :: g :: h :: next :: rest =>
    match hexQuad? a b c d with
    | none => .error ⟨.codeEscape, rest.length + 12⟩
    | some high =>
      if isHighSurrogate high then
        match hexQuad? e f g h with
        | none => .error ⟨.codeEscape, rest.length + 6⟩
        | some low =>
          if isLowSurrogate low then
            let code := 0x10000 + (high - 0xD800) * 0x400 + (low - 0xDC00)
            stringTail opening (Char.ofNat code :: done) (next :: rest)
          else stringTail opening (codeChar high :: done) ('\\' :: 'u' :: e :: f :: g :: h :: next :: rest)
      else stringTail opening (codeChar high :: done) ('\\' :: 'u' :: e :: f :: g :: h :: next :: rest)
  | done, '\\' :: 'u' :: a :: b :: c :: d :: next :: rest =>
    match hexQuad? a b c d with
    | none => .error ⟨.codeEscape, rest.length + 6⟩
    | some code => stringTail opening (codeChar code :: done) (next :: rest)
  | _, '\\' :: 'u' :: rest => .error ⟨.codeEscape, rest.length + 1⟩
  | done, '\\' :: c :: rest =>
    match simpleEscape? c with
    | none => .error ⟨.escape, rest.length + 2⟩
    | some plain => stringTail opening (plain :: done) rest
  | done, c :: rest =>
    if c.toNat < 0x20 then .error ⟨.controlCharacter, rest.length + 1⟩
    else stringTail opening (c :: done) rest

/-- Digits of ASCII in front, and what follows them. -/
def digitsOf (cs : List Char) : List Nat × List Char :=
  Decimal.digitRun Text.asciiDigit? cs

/-- The digits of a fraction, when the point is followed by one. -/
def fractionOf : List Char → Option (List Nat × List Char)
  | '.' :: rest =>
    match digitsOf rest with
    | ([], _) => none
    | found => some found
  | _ => none

/-- The value of an exponent, when its mark is followed by a digit. -/
def exponentOf : List Char → Option (Int × List Char)
  | c :: rest =>
    if c == 'e' || c == 'E' then
      let (negative, body) := Decimal.splitSign rest
      match digitsOf body with
      | ([], _) => none
      | (digits, after) =>
        let size := Int.ofNat (Decimal.ofDigits digits)
        some (if negative then -size else size, after)
    else none
  | [] => none

/-- A number: a whole one unless a fraction or an exponent follows. A leading zero stands alone, and a whole
number may not have too many digits. -/
def number (cs : List Char) : Step Value :=
  let (negative, body) := match cs with
    | '-' :: rest => (true, rest)
    | _ => (false, cs)
  let (whole, rest) := match body with
    | '0' :: rest => ([0], rest)
    | _ => digitsOf body
  if whole.isEmpty then stopAt .value cs
  else
    let (fraction, afterFraction) := (fractionOf rest).getD ([], rest)
    match fractionOf rest, exponentOf afterFraction with
    | none, none =>
      if Decimal.digitLimit < whole.length then stopAt (.tooManyDigits whole.length) cs
      else
        let size := Int.ofNat (Decimal.ofDigits whole)
        .ok (.int (if negative then -size else size), rest)
    | _, power =>
      let (exponent, after) := power.getD (0, afterFraction)
      .ok (.float (Decimal.nearest negative (whole ++ fraction) (exponent - fraction.length)), after)

mutual

/-- Read one value at the front. Every nesting takes one unit of fuel or more. -/
def value : Nat → List Char → Step Value
  | 0, cs => stopAt .value cs
  | fuel + 1, cs =>
    match cs with
    | '"' :: rest => (stringTail cs.length [] rest).map fun read => (.text read.1, read.2)
    | '{' :: rest =>
      match skipSpace rest with
      | '}' :: after => .ok (.object [], after)
      | body => members fuel [] body
    | '[' :: rest =>
      match skipSpace rest with
      | ']' :: after => .ok (.list [], after)
      | body => items fuel [] body
    | 'n' :: 'u' :: 'l' :: 'l' :: rest => .ok (.null, rest)
    | 't' :: 'r' :: 'u' :: 'e' :: rest => .ok (.bool true, rest)
    | 'f' :: 'a' :: 'l' :: 's' :: 'e' :: rest => .ok (.bool false, rest)
    | 'N' :: 'a' :: 'N' :: rest => .ok (.float (0.0 / 0.0), rest)
    | 'I' :: 'n' :: 'f' :: 'i' :: 'n' :: 'i' :: 't' :: 'y' :: rest => .ok (.float (1.0 / 0.0), rest)
    | '-' :: 'I' :: 'n' :: 'f' :: 'i' :: 'n' :: 'i' :: 't' :: 'y' :: rest =>
      .ok (.float (-1.0 / 0.0), rest)
    | _ => number cs

/-- The items of a list, of which those in `done` are read already. -/
def items : Nat → List Value → List Char → Step Value
  | 0, _, cs => stopAt .value cs
  | fuel + 1, done, cs =>
    match value fuel cs with
    | .error stop => .error stop
    | .ok (item, rest) =>
      match skipSpace rest with
      | ']' :: after => .ok (.list (item :: done).reverse, after)
      | ',' :: after => items fuel (item :: done) (skipSpace after)
      | after => stopAt .comma after

/-- The members of an object. A repeated name keeps its first place and takes its last value. -/
def members : Nat → List (String × Value) → List Char → Step Value
  | 0, _, cs => stopAt .memberName cs
  | fuel + 1, done, cs =>
    match cs with
    | '"' :: body =>
      match stringTail cs.length [] body with
      | .error stop => .error stop
      | .ok (name, rest) =>
        match skipSpace rest with
        | ':' :: after =>
          match value fuel (skipSpace after) with
          | .error stop => .error stop
          | .ok (item, rest) =>
            match skipSpace rest with
            | '}' :: after => .ok (.object (Fields.ofPairs ((name, item) :: done).reverse), after)
            | ',' :: after => members fuel ((name, item) :: done) (skipSpace after)
            | after => stopAt .comma after
        | after => stopAt .colon after
    | _ => stopAt .memberName cs

end

/-- Read a whole document: one value with white space around it and nothing after it. -/
def documentBody (cs : List Char) : Except Stop Value :=
  match value (2 * cs.length + 2) (skipSpace cs) with
  | .error stop => .error stop
  | .ok (read, rest) =>
    match skipSpace rest with
    | [] => .ok read
    | extra => stopAt .extraData extra

/-- A document given as text must not begin with a byte order mark. -/
def document (cs : List Char) : Except Stop Value :=
  if cs.head? = some '\uFEFF' then stopAt .byteOrderMark cs else documentBody cs

/-- The value that a JSON text denotes, or its first fault. -/
def parse (s : String) : Except SyntaxFault Value :=
  (document s.toList).mapError (Stop.locate s.toList)

end Workbench.Json
