import Workbench.Decimal.Binary

namespace Workbench.Decimal

/-- A positive decimal `0.d₁d₂…dₙ · 10 ^ point`, with its digits as characters. -/
structure Digits where
  digits : List Char
  point : Int

/-- The decimal `count · 10 ^ power` without trailing zeros. -/
def Digits.ofCount (count : Nat) (power : Int) : Digits :=
  let written := Nat.toDigits 10 count
  let kept := (written.reverse.dropWhile (· == '0')).reverse
  ⟨if kept.isEmpty then ['0'] else kept, written.length + power⟩

/-- How a number is laid out: positional notation ends below `10 ^ limit`, and a whole number written
positionally may or may not keep a fractional zero. -/
structure Layout where
  limit : Int
  keepFraction : Bool

def zeros (n : Int) : List Char :=
  List.replicate n.toNat '0'

/-- An exponent carries its sign and at least two digits. -/
def exponentMark (e : Int) : List Char :=
  let written := Nat.toDigits 10 e.natAbs
  'e' :: (if e < 0 then '-' else '+') :: (if written.length < 2 then '0' :: written else written)

/-- Positional notation from `0.0001` on up to the limit of the layout, scientific notation elsewhere. -/
def Digits.layOut (d : Digits) (layout : Layout) : List Char :=
  let length : Int := d.digits.length
  if -4 < d.point && d.point ≤ layout.limit then
    if d.point ≤ 0 then '0' :: '.' :: (zeros (-d.point) ++ d.digits)
    else if length ≤ d.point then
      d.digits ++ zeros (d.point - length) ++ (if layout.keepFraction then ['.', '0'] else [])
    else d.digits.take d.point.toNat ++ '.' :: d.digits.drop d.point.toNat
  else
    let head := d.digits.take 1
    let tail := d.digits.drop 1
    head ++ (if tail.isEmpty then [] else '.' :: tail) ++ exponentMark (d.point - 1)

/-- The half-way points between a number and its two neighbours, and whether they round to it. -/
structure RoundingInterval where
  low : Ratio
  high : Ratio
  closed : Bool

/-- Just above a power of two the lower neighbour is twice as near. -/
def roundingInterval (mantissa : Nat) (exponent : Int) : RoundingInterval :=
  let below := if mantissa = Nat.pow 2 52 && exponent ≠ -1074 then 1 else 2
  { low := .ofPower (4 * mantissa - below) 2 (exponent - 2)
    high := .ofPower (4 * mantissa + 2) 2 (exponent - 2)
    closed := mantissa % 2 = 0 }

def RoundingInterval.holds (interval : RoundingInterval) (a : Ratio) : Bool :=
  if interval.closed then interval.low.le a && a.le interval.high
  else interval.low.lt a && a.lt interval.high

/-- On the grid of multiples of `10 ^ power`: the neighbour of the value that rounds to it, the nearer
of two, and of two equally near ones the even one. -/
def gridHit? (interval : RoundingInterval) (value : Ratio) (power : Int) : Option Nat :=
  let scaled := value.inTens power
  let lower := scaled.num / scaled.den
  let lowerHit := interval.holds (.ofPower lower 10 power)
  let upperHit := interval.holds (.ofPower (lower + 1) 10 power)
  match lowerHit, upperHit with
  | true, true => some (roundDiv scaled.num scaled.den)
  | true, false => some lower
  | false, true => some (lower + 1)
  | false, false => none

/-- The fewest digits that read back as the number `mantissa · 2 ^ exponent`; seventeen always do. -/
def shortest (mantissa : Nat) (exponent : Int) : Digits :=
  let value := Ratio.ofPower mantissa 2 exponent
  let interval := roundingInterval mantissa exponent
  let point := value.decimalPoint
  let hit := (List.range 17).findSome? fun (n : Nat) =>
    let power : Int := point - (n + 1)
    (gridHit? interval value power).map fun count => Digits.ofCount count power
  hit.getD (.ofCount 0 0)

/-- A positive value rounded to `count` significant digits, a half going to the even neighbour. -/
def Ratio.significant (value : Ratio) (count : Nat) : Digits :=
  let power := value.decimalPoint - count
  let scaled := value.inTens power
  .ofCount (roundDiv scaled.num scaled.den) power

end Workbench.Decimal
