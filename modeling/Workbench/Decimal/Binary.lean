namespace Workbench.Decimal

/-- A floating point number taken apart: `finite` is `± mantissa · 2 ^ exponent`. -/
inductive Binary where
  | nan
  | infinite (negative : Bool)
  | finite (negative : Bool) (mantissa : Nat) (exponent : Int)
  deriving DecidableEq

/-- A non-negative fraction; its denominator is never zero where this library builds one. -/
structure Ratio where
  num : Nat
  den : Nat

def Ratio.ofPower (mantissa : Nat) (base : Nat) (exponent : Int) : Ratio :=
  if 0 ≤ exponent then ⟨mantissa * base.pow exponent.toNat, 1⟩ else ⟨mantissa, base.pow (-exponent).toNat⟩

def Ratio.le (a b : Ratio) : Bool :=
  a.num * b.den ≤ b.num * a.den

def Ratio.lt (a b : Ratio) : Bool :=
  a.num * b.den < b.num * a.den

/-- The fraction in units of `10 ^ power`. -/
def Ratio.inTens (a : Ratio) (power : Int) : Ratio :=
  if 0 ≤ power then ⟨a.num, a.den * Nat.pow 10 power.toNat⟩ else ⟨a.num * Nat.pow 10 (-power).toNat, a.den⟩

/-- Eleven bits of exponent below the sign and fifty-two of fraction: exponent zero holds the
subnormal numbers, exponent 2047 the infinities and the not-a-number. -/
def Binary.ofBits (bits : Nat) : Binary :=
  let negative := bits / Nat.pow 2 63 % 2 == 1
  let exponent : Nat := bits / Nat.pow 2 52 % 2048
  let fraction : Nat := bits % Nat.pow 2 52
  if exponent = 2047 then (if fraction = 0 then .infinite negative else .nan)
  else if exponent = 0 then .finite negative fraction (-1074)
  else .finite negative (fraction + Nat.pow 2 52) ((exponent : Int) - 1075)

def Binary.ofFloat (x : Float) : Binary :=
  .ofBits x.toBits.toNat

/-- Twice the quotient compared with its neighbours: the nearest whole number, a tie to even. -/
def roundDiv (num den : Nat) : Nat :=
  let quotient := num / den
  let twice := 2 * (num % den)
  if twice < den then quotient
  else if den < twice then quotient + 1
  else if quotient % 2 = 0 then quotient else quotient + 1

def digitCount (n : Nat) : Nat :=
  (Nat.toDigits 10 n).length

/-- The `p` for which a positive fraction lies in `[10 ^ (p - 1), 10 ^ p)`. -/
def Ratio.decimalPoint (a : Ratio) : Int :=
  if a.den ≤ a.num then digitCount (a.num / a.den) else 1 - digitCount ((a.den - 1) / a.num)

/-- Whether a number is finite and has no fractional part; then that whole number. -/
def wholePart? (x : Float) : Option Int :=
  match Binary.ofFloat x with
  | .finite negative mantissa exponent =>
    let ratio := Ratio.ofPower mantissa 2 exponent
    if ratio.num % ratio.den = 0 then
      some (if negative then -Int.ofNat (ratio.num / ratio.den) else Int.ofNat (ratio.num / ratio.den))
    else none
  | _ => none

end Workbench.Decimal
