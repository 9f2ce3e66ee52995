import Workbench.Proofs.Decimal.Order

namespace Workbench

open Float.Model (UnpackedFloat)
open UnpackedFloat (Canonical Near Reads Rounds)

namespace UnpackedFloat

/-- Rounding to whole numbers keeps the order. Were it turned, both fractions would lie half-way between two
neighbours, which cannot both be even. -/
theorem Rounds.le_of_le {p q : ℚ} {m n : ℕ} (one : Rounds p m) (other : Rounds q n) (le : p ≤ q) : m ≤ n := by
  by_contra more
  have above : (n : ℚ) + 1 ≤ m := by exact_mod_cast not_le.mp more
  have low := one.bounds.1
  have high := other.bounds.2
  have next : m = n + 1 := by
    have : (m : ℚ) ≤ n + 1 := by linarith
    exact_mod_cast le_antisymm this above
  subst next
  unfold Rounds at one other
  push_cast at one low
  split at other
  · rw [if_neg (by omega)] at one
    linarith [one.1]
  · linarith [other.2]

theorem Rounds.unique {p : ℚ} {m n : ℕ} (one : Rounds p m) (other : Rounds p n) : m = n :=
  le_antisymm (one.le_of_le other le_rfl) (other.le_of_le one le_rfl)

theorem Rounds.of_lt {p : ℚ} {n : ℕ} (above : n - 1 / 2 < p) (below : p < n + 1 / 2) : Rounds p n := by
  unfold Rounds
  split
  · exact ⟨above.le, below.le⟩
  · exact ⟨above, below⟩

theorem Rounds.of_half {p : ℚ} {n : ℕ} (even : n % 2 = 0) (above : n - 1 / 2 ≤ p) (below : p ≤ n + 1 / 2) :
    Rounds p n := by
  rw [Rounds, if_pos even]
  exact ⟨above, below⟩

theorem rounds_whole (n : ℕ) : Rounds n n :=
  .of_lt (by linarith) (by linarith)

end UnpackedFloat

namespace Decimal

theorem rounds_roundDiv (num : ℕ) {den : ℕ} (positive : 0 < den) : Rounds (num / den) (roundDiv num den) := by
  have none : (0 : ℚ) ≤ (num % den : ℕ) / den := by positivity
  have less : ((num % den : ℕ) : ℚ) / den < 1 := UnpackedFloat.rest_lt_one positive
  rw [UnpackedFloat.div_eq_whole_add_rest positive]
  unfold roundDiv
  dsimp only
  rcases lt_trichotomy (2 * (num % den)) den with low | half | high
  · have below := UnpackedFloat.rest_lt_half positive low
    rw [if_pos low]
    exact .of_lt (by linarith) (by linarith)
  · rw [if_neg half.not_lt, if_neg half.not_gt, UnpackedFloat.rest_eq_half positive half]
    split
    · exact .of_half ‹_› (by linarith) (by linarith)
    · exact .of_half (by omega) (by push_cast; linarith) (by push_cast; linarith)
  · have above := UnpackedFloat.half_lt_rest positive high
    rw [if_neg high.not_gt, if_pos high]
    exact .of_lt (by push_cast; linarith) (by push_cast; linarith)

theorem rounds_of_nonneg {p : ℚ} (nonneg : 0 ≤ p) : Rounds p (roundDiv p.num.natAbs p.den) := by
  have whole : (p.num.natAbs : ℚ) / p.den = p := by
    rw [Nat.cast_natAbs, Int.cast_abs, abs_of_nonneg (Int.cast_nonneg (Rat.num_nonneg.mpr nonneg)), Rat.num_div_den]
  have rounds := rounds_roundDiv p.num.natAbs p.pos
  rwa [whole] at rounds

end Decimal

namespace UnpackedFloat

/-- The greatest finite number. -/
def greatest : ℚ := (2 ^ 53 - 1) * 2 ^ (971 : ℤ)

theorem Canonical.value_le {mantissa : ℕ} {exponent : ℤ} (canonical : Canonical mantissa exponent)
    (fits : exponent ≤ 971) : (mantissa * 2 ^ exponent : ℚ) ≤ greatest := by
  have short : (mantissa : ℚ) + 1 ≤ 2 ^ 53 := by exact_mod_cast canonical.short
  calc (mantissa * 2 ^ exponent : ℚ) ≤ (2 ^ 53 - 1) * 2 ^ exponent :=
        mul_le_mul_of_nonneg_right (by linarith) (zpow_pos two_pos exponent).le
    _ ≤ greatest := mul_le_mul_of_nonneg_left (zpow_le_zpow_right₀ one_le_two fits) (by norm_num)

theorem greatest_pos : 0 < greatest :=
  mul_pos (by norm_num) (by positivity)

theorem Denotes.abs_le {a : UnpackedFloat} {q : ℚ} (denotes : Denotes a q) : |q| ≤ greatest := by
  cases denotes with
  | zero => exact abs_zero.trans_le greatest_pos.le
  | positive canonical fits => exact (abs_of_pos canonical.value_pos).trans_le (canonical.value_le fits)
  | negative canonical fits =>
    rw [abs_neg]
    exact (abs_of_pos canonical.value_pos).trans_le (canonical.value_le fits)

/-- What is normal and rounds to a mantissa is near to it, for the mantissa of a power of two from above only. -/
theorem Rounds.near {p : ℚ} {mantissa : ℕ} {exponent : ℤ} (rounds : Rounds p mantissa) (normal : 2 ^ 52 ≤ p) :
    Near mantissa exponent p := by
  unfold Near
  dsimp only
  by_cases power : mantissa = 2 ^ 52 ∧ exponent ≠ -1074
  · rw [if_pos power, power.1]
    have high := rounds.bounds.2
    rw [power.1] at high
    push_cast at high ⊢
    exact ⟨by linarith, high⟩
  · rw [if_neg power]
    exact rounds

/-- The units in which a value of one or more is stored, if it is not rounded up to the next power of two. -/
theorem exists_units {value : ℚ} (least : 1 ≤ value) :
    ∃ place : ℤ, -1074 < place ∧ 2 ^ 52 ≤ value / 2 ^ place ∧ value / 2 ^ place < 2 ^ 53 := by
  have low := Int.zpow_log_le_self one_lt_two (one_pos.trans_le least)
  have high := Int.lt_zpow_succ_log_self one_lt_two value
  have positive : 0 ≤ Int.log 2 value := by
    simpa using Int.log_mono_right (b := 2) one_pos least
  push_cast at low high
  refine ⟨Int.log 2 value - 52, by omega, ?_, ?_⟩
  · rw [le_div_iff₀ (by positivity), ← zpow_natCast, ← zpow_add₀ two_ne_zero]
    simpa using low
  · have split : ((53 : ℕ) : ℤ) + (Int.log 2 value - 52) = Int.log 2 value + 1 := by
      push_cast
      ring
    rwa [div_lt_iff₀ (by positivity), ← zpow_natCast, ← zpow_add₀ two_ne_zero, split]

/-- Whatever lies between one and the greatest number is read as some number. -/
theorem exists_reads {value : ℚ} (least : 1 ≤ value) (most : value ≤ greatest) :
    ∃ mantissa exponent, Canonical mantissa exponent ∧ exponent ≤ 971 ∧ Reads mantissa exponent value := by
  obtain ⟨place, bounded, low, high⟩ := exists_units least
  have rounds := Decimal.rounds_of_nonneg ((by positivity : (0 : ℚ) ≤ 2 ^ 52).trans low)
  generalize Decimal.roundDiv _ _ = n at rounds
  have unit : (0 : ℚ) < 2 ^ place := zpow_pos two_pos place
  have least : 2 ^ 52 ≤ n := (rounds_whole (2 ^ 52)).le_of_le rounds (by exact_mod_cast low)
  have limit : n ≤ 2 ^ 53 := rounds.le_of_le (rounds_whole (2 ^ 53)) (by exact_mod_cast high.le)
  have fits : place ≤ 971 := by
    have : (2 : ℚ) ^ 52 * 2 ^ place < 2 ^ 52 * 2 ^ (972 : ℤ) :=
      calc (2 : ℚ) ^ 52 * 2 ^ place ≤ value := (le_div_iff₀ unit).mp low
        _ ≤ greatest := most
        _ < 2 ^ 53 * 2 ^ (971 : ℤ) := mul_lt_mul_of_pos_right (by norm_num) (by positivity)
        _ = 2 ^ 52 * 2 ^ (972 : ℤ) := by
            rw [← zpow_natCast, ← zpow_natCast, ← zpow_add₀ two_ne_zero, ← zpow_add₀ two_ne_zero]
            rfl
    have := (zpow_lt_zpow_iff_right₀ one_lt_two).mp (lt_of_mul_lt_mul_left this (by positivity))
    omega
  rcases limit.lt_or_eq with short | full
  · exact ⟨n, place, ⟨by omega, short, bounded.le, fun small => by omega⟩, fits, rounds.near low⟩
  · -- Rounded up to a power of two, the value is stored in units twice as large.
    subst full
    have room : place ≠ 971 := by
      rintro rfl
      have less : value / 2 ^ (971 : ℤ) ≤ (2 ^ 53 - 1 : ℕ) := by
        rw [div_le_iff₀ unit, show ((2 ^ 53 - 1 : ℕ) : ℚ) = 2 ^ 53 - 1 by norm_num]
        exact most
      have := rounds.le_of_le (rounds_whole (2 ^ 53 - 1)) less
      norm_num at this
    refine ⟨2 ^ 52, place + 1, ⟨by norm_num, by norm_num, by omega, fun small => by omega⟩, by omega, ?_⟩
    have half : value / 2 ^ (place + 1) = value / 2 ^ place / 2 := by
      rw [zpow_add_one₀ two_ne_zero, div_div]
    have near := rounds.bounds.1
    rw [Reads, half, Near, if_pos (by norm_num), if_pos ⟨rfl, by omega⟩]
    push_cast at near ⊢
    constructor <;> linarith

end UnpackedFloat

theorem Float.beq_eq_false_of_isInf {a b : Float} (finite : a.isFinite = true) (infinite : b.isInf = true) :
    (a == b) = false := by
  have one : a.toModel.unpack.isFinite = true := finite
  have other : b.toModel.unpack.isInf = true := infinite
  change (a.toModel.unpack.compare b.toModel.unpack == some .eq) = false
  generalize a.toModel.unpack = left at one
  generalize b.toModel.unpack = right at other
  cases left with
  | notANumber | infinity => cases one
  | zero | finite =>
    cases right with
    | infinity sign => cases sign <;> rfl
    | _ => cases other

namespace Number

theorem isFinite_ofScientific {n : ℕ} (within : (n : ℚ) ≤ UnpackedFloat.greatest) :
    (Float.ofScientific n false 0).isFinite = true := by
  rcases Nat.eq_zero_or_pos n with rfl | positive
  · decide +kernel
  · obtain ⟨mantissa, exponent, canonical, fits, reads⟩ :=
      UnpackedFloat.exists_reads (Nat.one_le_cast.mpr positive) within
    have stored : (Float.ofScientific n false 0).toModel.unpack = .finite .positive mantissa exponent canonical.positive :=
      Float.unpack_ofScientific canonical positive fits (by simpa using reads)
    change (Float.ofScientific n false 0).toModel.unpack.isFinite = true
    rw [stored]
    rfl

/-- A whole number between two finite numbers has a nearest one. -/
theorem exists_ofWhole {n : ℤ} (within : |(n : ℚ)| ≤ UnpackedFloat.greatest) : ∃ x, ofWhole n = .ok x := by
  have finite : (Float.ofScientific n.natAbs false 0).isFinite = true := by
    refine isFinite_ofScientific ?_
    rwa [Nat.cast_natAbs, Int.cast_abs]
  have bounded : (Float.ofScientific n.natAbs false 0 == 1.0 / 0.0) = false :=
    Float.beq_eq_false_of_isInf finite (by decide +kernel)
  unfold ofWhole
  dsimp only
  rw [bounded]
  exact ⟨_, rfl⟩

theorem exists_toFloat {number : Number} {q : ℚ} (exact : number.fraction? = some q)
    (within : |q| ≤ UnpackedFloat.greatest) : ∃ x, number.toFloat = .ok x := by
  cases number with
  | whole n =>
    cases exact
    exact exists_ofWhole within
  | real x => exact ⟨x, rfl⟩

end Number

namespace Decimal

/-- How many units of the last decimal place come nearest to the size of a fraction. -/
def roundCount (places : ℕ) (q : ℚ) : ℕ :=
  roundDiv (|q| * 10 ^ places).num.natAbs (|q| * 10 ^ places).den

/-- A fraction rounded to so many decimal places in exact arithmetic, a half going to the even neighbour. -/
def roundExact (places : ℕ) (q : ℚ) : ℚ :=
  (if q < 0 then -(roundCount places q : ℚ) else roundCount places q) / 10 ^ places

variable {places : ℕ} {p q : ℚ}

theorem rounds_roundCount (places : ℕ) (q : ℚ) : Rounds (|q| * 10 ^ places) (roundCount places q) :=
  rounds_of_nonneg (by positivity)

theorem roundCount_le_roundCount (le : |p| ≤ |q|) : roundCount places p ≤ roundCount places q :=
  (rounds_roundCount places p).le_of_le (rounds_roundCount places q) (mul_le_mul_of_nonneg_right le (by positivity))

/-- Rounding keeps the order. -/
theorem roundExact_le_roundExact (le : p ≤ q) : roundExact places p ≤ roundExact places q := by
  have unit : (0 : ℚ) < 10 ^ places := by positivity
  have least : (0 : ℚ) ≤ roundCount places p := Nat.cast_nonneg _
  have most : (0 : ℚ) ≤ roundCount places q := Nat.cast_nonneg _
  unfold roundExact
  rw [div_le_div_iff_of_pos_right unit]
  split_ifs with left right right
  · have turned : |q| ≤ |p| := by
      rw [abs_of_neg left, abs_of_neg right]
      exact neg_le_neg le
    exact neg_le_neg (Nat.cast_le.mpr (roundCount_le_roundCount turned))
  · linarith
  · exact absurd (le.trans_lt right) left
  · have kept : |p| ≤ |q| := by
      rwa [abs_of_nonneg (not_lt.mp left), abs_of_nonneg (not_lt.mp right)]
    exact Nat.cast_le.mpr (roundCount_le_roundCount kept)

/-- A whole number is rounded to itself. -/
theorem roundExact_natCast (places n : ℕ) : roundExact places n = n := by
  have unit : (10 : ℚ) ^ places ≠ 0 := by positivity
  have none : (0 : ℚ) ≤ n := Nat.cast_nonneg n
  have whole : (n : ℚ) * 10 ^ places = (n * 10 ^ places : ℕ) := by
    push_cast
    rfl
  have rounds := rounds_roundCount places n
  rw [abs_of_nonneg none, whole] at rounds
  rw [roundExact, if_neg none.not_gt, rounds.unique (UnpackedFloat.rounds_whole _), ← whole,
    mul_div_cancel_right₀ _ unit]

theorem roundExact_bounds {n : ℕ} (least : 0 ≤ q) (most : q ≤ n) :
    0 ≤ roundExact places q ∧ roundExact places q ≤ n := by
  have none := roundExact_natCast places 0
  rw [Nat.cast_zero] at none
  constructor
  · exact none.ge.trans (roundExact_le_roundExact least)
  · exact (roundExact_le_roundExact most).trans (roundExact_natCast places n).le

end Decimal

end Workbench
