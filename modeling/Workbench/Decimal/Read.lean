import Workbench.Text.Blank
import Workbench.Text.Digit

namespace Workbench.Decimal

/-- How many digits a whole number may have where it is read from a text or written into one. -/
def digitLimit : Nat := 4300

/-- What is said of a whole number that has more digits. -/
def limitMessage : String :=
  "Exceeds the limit (" ++ toString digitLimit ++ " digits) for integer string conversion"

/-- How the limit is raised. -/
def limitAdvice : String :=
  "; use sys.set_int_max_str_digits() to increase the limit"

/-- Whether a whole number has too many digits to be written out. -/
def isVast (n : Int) : Bool :=
  digitLimit < (Nat.toDigits 10 n.natAbs).length

/-- The whole number that a list of decimal digits denotes. -/
def ofDigits (digits : List Nat) : Nat :=
  digits.foldl (fun acc d => 10 * acc + d) 0

/-- The number nearest to `± digits · 10 ^ exponent`. Far outside the range of the format the answer
is infinity or zero, whatever the digits are. -/
def nearest (negative : Bool) (digits : List Nat) (exponent : Int) : Float :=
  let significant := digits.dropWhile (· == 0)
  let magnitude := significant.length + exponent
  let unsigned :=
    if significant.isEmpty || magnitude < -400 then 0.0
    else if 400 < magnitude then 1.0 / 0.0
    else if 0 ≤ exponent then Float.ofScientific (ofDigits significant) false exponent.toNat
    else Float.ofScientific (ofDigits significant) true (-exponent).toNat
  if negative then -unsigned else unsigned

/-- A sign in front, and what follows it. -/
def splitSign : List Char → Bool × List Char
  | '-' :: rest => (true, rest)
  | '+' :: rest => (false, rest)
  | cs => (false, cs)

/-- A number without the single underscores that hold two digits apart. The flag tells whether the
character in front is a digit. -/
def dropGroupMarks (digit? : Char → Option Nat) : Bool → List Char → List Char
  | _, [] => []
  | afterDigit, c :: rest =>
    if c == '_' && afterDigit && (rest.head?.bind digit?).isSome then dropGroupMarks digit? false rest
    else c :: dropGroupMarks digit? (digit? c).isSome rest

/-- The digits in front, and what follows them. -/
def digitRun (digit? : Char → Option Nat) : List Char → List Nat × List Char
  | [] => ([], [])
  | c :: rest =>
    match digit? c with
    | none => ([], c :: rest)
    | some d => (d :: (digitRun digit? rest).1, (digitRun digit? rest).2)

/-- An exponent mark with its digits, which must end the text. -/
def exponentTail (digit? : Char → Option Nat) : List Char → Option Int
  | [] => some 0
  | c :: rest =>
    if c == 'e' || c == 'E' then
      let (negative, body) := splitSign rest
      match digitRun digit? body with
      | (d :: ds, []) => some (if negative then -Int.ofNat (ofDigits (d :: ds)) else ofDigits (d :: ds))
      | _ => none
    else none

/-- A number after its sign: digits with an optional point and exponent, or one of the words for
infinity and not-a-number in letters of any case. -/
def unsignedNumber (digit? : Char → Option Nat) (negative : Bool) (cs : List Char) : Option Float :=
  let word := String.ofList (cs.map Char.toLower)
  if word == "inf" || word == "infinity" then some (if negative then -1.0 / 0.0 else 1.0 / 0.0)
  else if word == "nan" then some (0.0 / 0.0)
  else
    let (whole, rest) := digitRun digit? (dropGroupMarks digit? false cs)
    let (fraction, rest) := match rest with
      | '.' :: more => digitRun digit? more
      | _ => ([], rest)
    if whole.isEmpty && fraction.isEmpty then none
    else (exponentTail digit? rest).map fun exponent =>
      nearest negative (whole ++ fraction) (exponent - fraction.length)

/-- Read a whole number written in the decimal digits of any script, white space around it ignored. -/
def readWhole? (s : String) : Option Int :=
  let (negative, body) := splitSign (Text.trim Text.isBlank s.toList)
  match digitRun Text.decimalDigit? (dropGroupMarks Text.decimalDigit? false body) with
  | (d :: ds, []) => some (if negative then -Int.ofNat (ofDigits (d :: ds)) else ofDigits (d :: ds))
  | _ => none

/-- Read a number in the digits that `digit?` knows. -/
def readWith (digit? : Char → Option Nat) (cs : List Char) : Option Float :=
  let (negative, body) := splitSign cs
  unsignedNumber digit? negative body

/-- Read a number written in the decimal digits of any script, white space around it ignored. -/
def read? (s : String) : Option Float :=
  readWith Text.decimalDigit? (Text.trim Text.isBlank s.toList)

/-- Whether underscores stand neither at an end nor next to each other. -/
def spacedOut : Bool → List Char → Bool
  | afterMark, [] => !afterMark
  | afterMark, c :: rest => !(afterMark && c == '_') && spacedOut (c == '_') rest

/-- Read a number written in ASCII digits, white space around it ignored; ASCII separators are none. A text
with underscores is read without them if they are spaced out, but then white space counts. -/
def readAscii? (s : String) : Option Float :=
  let cs := s.toList
  if cs.contains '_' then
    if spacedOut true cs then readWith Text.asciiDigit? (cs.filter (· != '_')) else none
  else readWith Text.asciiDigit? (Text.trim Text.isSpace cs)

end Workbench.Decimal
