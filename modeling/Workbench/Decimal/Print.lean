import Workbench.Decimal.Digits

namespace Workbench.Decimal

def signed (negative : Bool) (cs : List Char) : String :=
  String.ofList (if negative then '-' :: cs else cs)

/-- A number with its words for the values that have no digits. -/
def print (digits : Nat → Int → List Char) (x : Float) : String :=
  match Binary.ofFloat x with
  | .nan => "nan"
  | .infinite negative => signed negative "inf".toList
  | .finite negative mantissa exponent => signed negative (digits mantissa exponent)

/-- Numbers stand in positional notation up to sixteen digits before the point, and whole ones keep
a fractional zero. -/
def plainLayout : Layout := ⟨16, true⟩

/-- The general notation is positional up to six digits before the point and drops a zero fraction. -/
def generalLayout : Layout := ⟨6, false⟩

/-- The shortest text that reads back as the same number. -/
def plain (x : Float) : String :=
  print (fun mantissa exponent =>
    let digits := if mantissa = 0 then ⟨['0'], 1⟩ else shortest mantissa exponent
    digits.layOut plainLayout) x

/-- A fraction with six significant digits, without trailing zeros. -/
def general (x : Rat) : String :=
  let digits := if x.num = 0 then ⟨['0'], 1⟩ else Ratio.significant ⟨x.num.natAbs, x.den⟩ 6
  signed (x.num < 0) (digits.layOut generalLayout)

/-- The exact value of a number, if it is finite. -/
def fraction? (x : Float) : Option Rat :=
  match Binary.ofFloat x with
  | .finite negative mantissa exponent =>
    let ratio := Ratio.ofPower mantissa 2 exponent
    some (mkRat (if negative then -Int.ofNat ratio.num else Int.ofNat ratio.num) ratio.den)
  | _ => none

/-- Exactly `places` digits after the point, a half going to the even neighbour. -/
def fixed (places : Nat) (x : Float) : String :=
  print (fun mantissa exponent =>
    let scaled := (Ratio.ofPower mantissa 2 exponent).inTens (-places)
    let written := Nat.toDigits 10 (roundDiv scaled.num scaled.den)
    let padded := List.replicate (places + 1 - written.length) '0' ++ written
    padded.take (padded.length - places) ++ '.' :: padded.drop (padded.length - places)) x

/-- The nearest number with at most `places` decimal places, a half going to the even neighbour. -/
def roundPlaces (places : Nat) (x : Float) : Float :=
  match Binary.ofFloat x with
  | .finite negative mantissa exponent =>
    let scaled := (Ratio.ofPower mantissa 2 exponent).inTens (-places)
    let rounded := Float.ofScientific (roundDiv scaled.num scaled.den) true places
    if negative then -rounded else rounded
  | _ => x

end Workbench.Decimal
