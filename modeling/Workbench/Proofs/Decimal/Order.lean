import Workbench.Number
import Workbench.Proofs.Decimal.Shortest
import Workbench.Proofs.Decimal.Stored

namespace Workbench

open Float.Model (UnpackedFloat)
open UnpackedFloat (Canonical)

namespace UnpackedFloat

/-- A finite number in the form in which it is stored, with its exact value. -/
inductive Denotes : UnpackedFloat → ℚ → Prop
  | zero (sign : UnpackedFloat.Sign) : Denotes (.zero sign) 0
  | positive {mantissa : ℕ} {exponent : ℤ} (canonical : Canonical mantissa exponent) (fits : exponent ≤ 971) :
    Denotes (.finite .positive mantissa exponent canonical.positive) (mantissa * 2 ^ exponent)
  | negative {mantissa : ℕ} {exponent : ℤ} (canonical : Canonical mantissa exponent) (fits : exponent ≤ 971) :
    Denotes (.finite .negative mantissa exponent canonical.positive) (-(mantissa * 2 ^ exponent))

variable {m₁ m₂ : ℕ} {e₁ e₂ : ℤ}

theorem Canonical.value_pos (canonical : Canonical m₁ e₁) : (0 : ℚ) < m₁ * 2 ^ e₁ :=
  mul_pos (Nat.cast_pos.mpr canonical.positive) (zpow_pos two_pos e₁)

/-- What is stored under a greater exponent is greater, for it is not subnormal. -/
theorem Canonical.value_lt_of_exponent_lt (one : Canonical m₁ e₁) (other : Canonical m₂ e₂) (less : e₁ < e₂) :
    (m₁ * 2 ^ e₁ : ℚ) < m₂ * 2 ^ e₂ := by
  have bounded := one.bounded
  have normal : 2 ^ 52 ≤ m₂ := by
    by_contra small
    have := other.normal (not_le.mp small)
    omega
  have short : (m₁ : ℚ) < 2 ^ 53 := by exact_mod_cast one.short
  have large : (2 : ℚ) ^ 52 ≤ m₂ := by exact_mod_cast normal
  calc (m₁ * 2 ^ e₁ : ℚ) < 2 ^ 53 * 2 ^ e₁ := mul_lt_mul_of_pos_right short (zpow_pos two_pos e₁)
    _ = 2 ^ 52 * 2 ^ (e₁ + 1) := by rw [zpow_add_one₀ two_ne_zero]; ring
    _ ≤ 2 ^ 52 * 2 ^ e₂ := mul_le_mul_of_nonneg_left (zpow_le_zpow_right₀ one_le_two less) (by positivity)
    _ ≤ m₂ * 2 ^ e₂ := mul_le_mul_of_nonneg_right large (zpow_pos two_pos e₂).le

/-- Positive numbers are in the order of their exponents and then of their mantissas. -/
theorem Canonical.compare_eq_lt_iff (one : Canonical m₁ e₁) (other : Canonical m₂ e₂) :
    (compare e₁ e₂).then (compare m₁ m₂) = .lt ↔ (m₁ * 2 ^ e₁ : ℚ) < m₂ * 2 ^ e₂ := by
  rw [Ordering.then_eq_lt, compare_lt_iff_lt, compare_eq_iff_eq, compare_lt_iff_lt]
  rcases lt_trichotomy e₁ e₂ with less | rfl | more
  · simp [less, one.value_lt_of_exponent_lt other less]
  · have unit : (0 : ℚ) < 2 ^ e₁ := zpow_pos two_pos e₁
    rw [mul_lt_mul_iff_left₀ unit, Nat.cast_lt]
    simp
  · simp [more.not_gt, more.ne', (other.value_lt_of_exponent_lt one more).not_gt]

/-- Finite numbers are in the order of their exact values. -/
theorem Denotes.compare_eq_lt_iff {a b : UnpackedFloat} {p q : ℚ} (left : Denotes a p) (right : Denotes b q) :
    a.compare b = some .lt ↔ p < q := by
  cases left with
  | zero =>
    cases right with
    | zero => simp [UnpackedFloat.compare]
    | positive other => simp [UnpackedFloat.compare, other.value_pos]
    | negative other => simp [UnpackedFloat.compare, other.value_pos.le]
  | positive one =>
    cases right with
    | zero => simp [UnpackedFloat.compare, one.value_pos.le]
    | positive other => simp only [UnpackedFloat.compare, Option.some_inj, one.compare_eq_lt_iff other]
    | negative other => simp [UnpackedFloat.compare, (neg_neg_of_pos other.value_pos).le.trans one.value_pos.le]
  | negative one =>
    cases right with
    | zero => simp [UnpackedFloat.compare, one.value_pos]
    | positive other => simp [UnpackedFloat.compare, (neg_neg_of_pos one.value_pos).trans other.value_pos]
    | negative other =>
      simp only [UnpackedFloat.compare, Option.some_inj, neg_lt_neg_iff, Ordering.swap_then, Int.compare_swap,
        Nat.compare_swap, other.compare_eq_lt_iff one]

end UnpackedFloat

namespace Decimal

/-- The exact value of a number, from its parts. -/
theorem fraction?_eq_some_iff {x : Float} {q : ℚ} :
    fraction? x = some q ↔ ∃ negative mantissa exponent, Binary.ofFloat x = .finite negative mantissa exponent ∧
      q = if negative then -(mantissa * 2 ^ exponent : ℚ) else mantissa * 2 ^ exponent := by
  have value (negative : Bool) (mantissa : ℕ) (exponent : ℤ) :
      mkRat (if negative then -Int.ofNat (Ratio.ofPower mantissa 2 exponent).num
        else Int.ofNat (Ratio.ofPower mantissa 2 exponent).num) (Ratio.ofPower mantissa 2 exponent).den =
      if negative then -(mantissa * 2 ^ exponent : ℚ) else mantissa * 2 ^ exponent := by
    have whole := Ratio.toRat_ofPower mantissa 2 exponent
    rw [Ratio.toRat] at whole
    push_cast at whole
    rw [Rat.mkRat_eq_div, ← whole]
    split <;> simp [neg_div]
  unfold fraction?
  cases parts : Binary.ofFloat x with
  | nan => simp
  | infinite negative => simp
  | finite negative mantissa exponent =>
    dsimp only
    rw [value, Option.some_inj]
    constructor
    · rintro rfl
      exact ⟨_, _, _, rfl, rfl⟩
    · rintro ⟨_, _, _, same, rfl⟩
      cases same
      rfl

/-- A finite number has an exact value. -/
theorem exists_fraction? {x : Float} (finite : x.isFinite = true) : ∃ q, fraction? x = some q := by
  obtain ⟨_, _, _, parts⟩ := Binary.exists_ofFloat finite
  exact ⟨_, fraction?_eq_some_iff.mpr ⟨_, _, _, parts, rfl⟩⟩

theorem denotes_of_fraction? {x : Float} {q : ℚ} (exact : fraction? x = some q) :
    UnpackedFloat.Denotes x.toModel.unpack q := by
  obtain ⟨negative, mantissa, exponent, parts, rfl⟩ := fraction?_eq_some_iff.mp exact
  rcases Binary.unpack_of_ofFloat parts with ⟨rfl, zero⟩ | ⟨canonical, fits, stored⟩
  · rw [zero]
    simp only [Nat.cast_zero, zero_mul, neg_zero, ite_self]
    exact .zero _
  · rw [stored]
    cases negative with
    | false => exact .positive canonical fits
    | true => exact .negative canonical fits

/-- Finite floating point numbers are in the order of their exact values. -/
theorem lt_iff_of_fraction? {a b : Float} {p q : ℚ} (left : fraction? a = some p) (right : fraction? b = some q) :
    a < b ↔ p < q := by
  rw [Float.lt_iff]
  exact (denotes_of_fraction? left).compare_eq_lt_iff (denotes_of_fraction? right)

end Decimal

namespace Number

open Decimal (Ratio)

theorem wholeBelow_iff (n : ℤ) (negative : Bool) (mantissa : ℕ) (exponent : ℤ) :
    wholeBelow n negative (Ratio.ofPower mantissa 2 exponent) = true ↔
      (n : ℚ) < if negative then -(mantissa * 2 ^ exponent : ℚ) else mantissa * 2 ^ exponent := by
  have den : (0 : ℚ) < (Ratio.ofPower mantissa 2 exponent).den :=
    Nat.cast_pos.mpr (Ratio.den_ofPower mantissa two_pos exponent)
  have value := Ratio.toRat_ofPower mantissa 2 exponent
  rw [Ratio.toRat] at value
  push_cast at value
  rw [wholeBelow, decide_eq_true_iff, ← value]
  cases negative with
  | false =>
    rw [if_neg Bool.false_ne_true, if_neg Bool.false_ne_true, lt_div_iff₀ den]
    exact_mod_cast Iff.rfl
  | true =>
    rw [if_pos rfl, if_pos rfl, ← neg_div, lt_div_iff₀ den]
    exact_mod_cast Iff.rfl

/-- Finite numbers are in the order of their exact values, whole numbers of any size among them. -/
theorem lt_iff_of_fraction? {a b : Number} {p q : ℚ} (left : a.fraction? = some p) (right : b.fraction? = some q) :
    a < b ↔ p < q := by
  change below a b = true ↔ p < q
  cases a with
  | whole n =>
    cases left
    cases b with
    | whole m =>
      cases right
      simp [below]
    | real y =>
      obtain ⟨negative, mantissa, exponent, parts, rfl⟩ := Decimal.fraction?_eq_some_iff.mp right
      simp only [below, parts, wholeBelow_iff]
  | real x =>
    cases b with
    | whole m =>
      cases right
      obtain ⟨negative, mantissa, exponent, parts, rfl⟩ := Decimal.fraction?_eq_some_iff.mp left
      simp only [below, parts, wholeBelow_iff]
      cases negative <;> simp [neg_lt]
    | real y => exact decide_eq_true_iff.trans (Decimal.lt_iff_of_fraction? left right)

theorem not_isNaN_of_fraction? {a : Number} {p : ℚ} (exact : a.fraction? = some p) : a.isNaN = false := by
  cases a with
  | whole n => rfl
  | real x =>
    obtain ⟨_, _, _, parts, _⟩ := Decimal.fraction?_eq_some_iff.mp exact
    by_contra lost
    rw [ofFloat_of_isNaN (Bool.eq_true_of_not_eq_false lost)] at parts
    cases parts

theorem atLeast_iff_of_fraction? {a b : Number} {p q : ℚ} (left : a.fraction? = some p)
    (right : b.fraction? = some q) : a.atLeast b = true ↔ q ≤ p := by
  have order : below a b = true ↔ p < q := lt_iff_of_fraction? left right
  simp [atLeast, not_isNaN_of_fraction? left, not_isNaN_of_fraction? right, ← not_lt, ← order]

end Number

end Workbench
