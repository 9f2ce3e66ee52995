import Workbench.Value.Display
import Workbench.Decimal.Read

namespace Workbench

/-- A number of a document: a whole number of any size, or a floating point number. -/
inductive Number where
  | whole (n : Int)
  | real (x : Float)
  deriving DecidableEq

/-- A whole number beyond the range of floating point numbers. -/
structure Overflow where
  deriving DecidableEq

namespace Number

def toValue : Number → Value
  | .whole n => .int n
  | .real x => .float x

/-- The nearest floating point number. -/
def ofWhole (n : Int) : Except Overflow Float :=
  let magnitude := Float.ofScientific n.natAbs false 0
  if magnitude == 1.0 / 0.0 then .error {} else .ok (if n < 0 then -magnitude else magnitude)

def toFloat : Number → Except Overflow Float
  | .whole n => ofWhole n
  | .real x => .ok x

/-- Compare a whole number with a fraction of a sign, without rounding. -/
def wholeBelow (n : Int) (negative : Bool) (size : Decimal.Ratio) : Bool :=
  let num : Int := if negative then -Int.ofNat size.num else size.num
  n * size.den < num

/-- The exact value of a finite number. -/
def fraction? : Number → Option Rat
  | .whole n => some n
  | .real x => Decimal.fraction? x

/-- The order of numbers by their exact values. Not-a-number is in no relation to any. -/
def below : Number → Number → Bool
  | .whole a, .whole b => a < b
  | .real a, .real b => a < b
  | .whole a, .real b => match Decimal.Binary.ofFloat b with
    | .nan => false
    | .infinite negative => !negative
    | .finite negative mantissa exponent => wholeBelow a negative (.ofPower mantissa 2 exponent)
  | .real a, .whole b => match Decimal.Binary.ofFloat a with
    | .nan => false
    | .infinite negative => negative
    | .finite negative mantissa exponent => wholeBelow (-b) (!negative) (.ofPower mantissa 2 exponent)

instance : LT Number := ⟨fun a b => below a b = true⟩

instance (a b : Number) : Decidable (a < b) := inferInstanceAs (Decidable (below a b = true))

def isNaN : Number → Bool
  | .whole _ => false
  | .real x => x.isNaN

/-- Whether the first number is not smaller, by exact values. -/
def atLeast (a b : Number) : Bool :=
  !a.isNaN && !b.isNaN && !below a b

end Number

/-- A value bounded from above and then from below. At a bound the bound itself is shown. -/
def clamp {α : Type} [LT α] [DecidableLT α] (low high value : α) : α :=
  let bounded := if value < high then value else high
  if low < bounded then bounded else low

namespace Value

/-- The number that a value is. Truth values are not numbers here. -/
def number? : Value → Option Number
  | .int n => some (.whole n)
  | .float x => some (.real x)
  | _ => none

/-- The number that a value stands for in arithmetic: nothing and blank text count as zero, truth
values as one and zero, and what cannot be read as not-a-number. -/
def operand : Value → Except Overflow Float
  | .null => .ok 0.0
  | .bool flag => .ok (if flag then 1.0 else 0.0)
  | .int n => Number.ofWhole n
  | .float x => .ok x
  | .text content =>
    let stripped := Text.strip content
    .ok (if stripped.isEmpty then 0.0 else (Decimal.read? stripped).getD (0.0 / 0.0))
  | _ => .ok (0.0 / 0.0)

/-- The factor that a parameter stands for: a finite number or the text of one. A flag is a switch and
no factor. -/
def factor : Value → Except Overflow (Option Float)
  | .int n => (Number.ofWhole n).map some
  | .float x => .ok (if x.isFinite then some x else none)
  | .text content => .ok ((Decimal.read? (Text.strip content)).filter (·.isFinite))
  | _ => .ok none

/-- A value as a gauge shows it: three decimal places, lists item by item. -/
def gauge : Value → String
  | .float x => Decimal.fixed 3 x
  | .list items =>
    let shown := Text.join ", " (items.map display)
    if shown.isEmpty then "(none)" else shown
  | value => value.display

/-- A number within its range. All other values are shown as they are. -/
def clampTo (range : Option (Number × Number)) (value : Value) : Value :=
  match range, value.number? with
  | some (low, high), some number => (clamp low high number).toValue
  | _, _ => value

end Value

end Workbench
