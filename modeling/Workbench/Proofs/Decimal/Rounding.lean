import Workbench.Proofs.Decimal.NaN

namespace Workbench

open Float.Model (Format UnpackedFloat totalExponent)
open Float.Model.UnpackedFloat (ExtendedMantissa)

theorem zpow_eq_pow (a : ℚ) {n : ℤ} (whole : 0 ≤ n) : a ^ n = a ^ n.toNat := by
  rw [← zpow_natCast, Int.toNat_of_nonneg whole]

theorem zpow_eq_inv_pow (a : ℚ) {n : ℤ} (below : n ≤ 0) : a ^ n = (a ^ (-n).toNat)⁻¹ := by
  rw [← zpow_natCast, Int.toNat_of_nonneg (by omega), zpow_neg, inv_inv]

namespace UnpackedFloat

/-- Whether a mantissa and its two further bits tell of a fraction all that rounding asks for: its whole part, and
how the rest compares with nothing and with a half. -/
def Tells (kept : ExtendedMantissa) (fraction : ℚ) : Prop :=
  if kept.roundBit then
    if kept.stickyBit then kept.mantissa + 1 / 2 < fraction ∧ fraction < kept.mantissa + 1
    else fraction = kept.mantissa + 1 / 2
  else
    if kept.stickyBit then kept.mantissa < fraction ∧ fraction < kept.mantissa + 1 / 2
    else fraction = kept.mantissa

/-- Whether a fraction lies nearest to a whole number, where a half goes to the even one. -/
def Rounds (fraction : ℚ) (whole : ℕ) : Prop :=
  if whole % 2 = 0 then whole - 1 / 2 ≤ fraction ∧ fraction ≤ whole + 1 / 2
  else whole - 1 / 2 < fraction ∧ fraction < whole + 1 / 2

theorem Rounds.bounds {fraction : ℚ} {whole : ℕ} (rounds : Rounds fraction whole) :
    whole - 1 / 2 ≤ fraction ∧ fraction ≤ whole + 1 / 2 := by
  unfold Rounds at rounds
  split at rounds
  · exact rounds
  · exact ⟨rounds.1.le, rounds.2.le⟩

namespace Tells

variable {kept : ExtendedMantissa} {fraction : ℚ}

theorem bounds (tells : Tells kept fraction) : kept.mantissa ≤ fraction ∧ fraction < kept.mantissa + 1 := by
  obtain ⟨mantissa, roundBit, stickyBit⟩ := kept
  cases roundBit <;> cases stickyBit <;> simp only [Tells, Bool.false_eq_true, if_false, if_true] at tells ⊢ <;>
    constructor <;> linarith

theorem roundedMantissa (tells : Tells kept fraction) {whole : ℕ} (rounds : Rounds fraction whole) :
    kept.roundedMantissa = whole := by
  obtain ⟨mantissa, roundBit, stickyBit⟩ := kept
  have bounds := rounds.bounds
  cases roundBit with
  | false =>
    have same : whole = mantissa := by
      have above : mantissa ≤ fraction ∧ fraction < mantissa + 1 / 2 := by
        cases stickyBit with
        | false =>
          have exact : fraction = mantissa := tells
          exact ⟨exact.ge, by linarith⟩
        | true => exact ⟨tells.1.le, tells.2⟩
      have high : (whole : ℚ) < (mantissa + 1 : ℕ) := by push_cast; linarith
      have low : (mantissa : ℚ) < (whole + 1 : ℕ) := by push_cast; linarith
      have := Nat.cast_lt.mp high
      have := Nat.cast_lt.mp low
      omega
    cases stickyBit <;> exact same.symm
  | true =>
    cases stickyBit with
    | false =>
      have half : fraction = mantissa + 1 / 2 := tells
      have high : (whole : ℚ) ≤ (mantissa + 1 : ℕ) := by push_cast; linarith
      have low : (mantissa : ℚ) ≤ (whole : ℕ) := by linarith
      have high := Nat.cast_le.mp high
      have low := Nat.cast_le.mp low
      -- An odd number is not half a unit away.
      have even : whole % 2 = 0 := by
        by_contra odd
        rw [Rounds, if_neg odd] at rounds
        have less : (whole : ℚ) < (mantissa + 1 : ℕ) := by push_cast; linarith
        have more : (mantissa : ℚ) < (whole : ℕ) := by linarith
        have := Nat.cast_lt.mp less
        have := Nat.cast_lt.mp more
        omega
      change mantissa + mantissa % 2 = whole
      omega
    | true =>
      have above : mantissa + 1 / 2 < fraction ∧ fraction < mantissa + 1 := tells
      have high : (whole : ℚ) < (mantissa + 2 : ℕ) := by push_cast; linarith
      have low : (mantissa : ℚ) < (whole : ℕ) := by linarith
      have := Nat.cast_lt.mp high
      have := Nat.cast_lt.mp low
      change mantissa + 1 = whole
      omega

theorem shiftRightOne (tells : Tells kept fraction) : Tells kept.shiftRightOne (fraction / 2) := by
  obtain ⟨mantissa, roundBit, stickyBit⟩ := kept
  have parts : (mantissa : ℚ) = 2 * (mantissa / 2 : ℕ) + (mantissa % 2 : ℕ) := by
    exact_mod_cast (Nat.div_add_mod mantissa 2).symm
  rcases Nat.mod_two_eq_zero_or_one mantissa with even | odd
  · rw [even] at parts
    cases roundBit <;> cases stickyBit <;>
      simp only [Tells, ExtendedMantissa.shiftRightOne, even, bne_self_eq_false, Bool.or_false, Bool.or_true,
        Bool.false_eq_true, if_false, if_true, Nat.cast_zero, add_zero] at tells parts ⊢
    · linarith
    all_goals constructor <;> linarith
  · rw [odd] at parts
    cases roundBit <;> cases stickyBit <;>
      simp only [Tells, ExtendedMantissa.shiftRightOne, odd, Bool.or_false, Bool.or_true, Bool.false_eq_true, if_false,
        if_true, Nat.cast_one, show (1 != 0) = true from rfl] at tells parts ⊢
    · linarith
    all_goals constructor <;> linarith

theorem shiftRight (tells : Tells kept fraction) (count : ℕ) : Tells (kept >>> count) (fraction / 2 ^ count) := by
  induction count with
  | zero =>
    rw [pow_zero, div_one]
    exact tells
  | succ count ih =>
    have one := ih.shiftRightOne
    rwa [div_div, ← pow_succ] at one

end Tells

/-- Whether a mantissa and an exponent are the ones under which a positive number is stored. -/
structure Canonical (mantissa : ℕ) (exponent : ℤ) : Prop where
  positive : 0 < mantissa
  short : mantissa < 2 ^ 53
  bounded : -1074 ≤ exponent
  normal : mantissa < 2 ^ 52 → exponent = -1074

/-- Whether a fraction of units in the last place of a number rounds to its mantissa. Just above a power of two the
lower neighbour is twice as near. -/
def Near (mantissa : ℕ) (exponent : ℤ) (fraction : ℚ) : Prop :=
  let below : ℚ := if mantissa = 2 ^ 52 ∧ exponent ≠ -1074 then 1 / 4 else 1 / 2
  if mantissa % 2 = 0 then mantissa - below ≤ fraction ∧ fraction ≤ mantissa + 1 / 2
  else mantissa - below < fraction ∧ fraction < mantissa + 1 / 2

theorem Near.bounds {mantissa : ℕ} {exponent : ℤ} {fraction : ℚ} (near : Near mantissa exponent fraction) :
    mantissa - 1 / 2 ≤ fraction ∧ fraction ≤ mantissa + 1 / 2 := by
  unfold Near at near
  dsimp only at near
  split_ifs at near <;> constructor <;> linarith [near.1, near.2]

theorem Near.rounds {mantissa : ℕ} {exponent : ℤ} {fraction : ℚ} (near : Near mantissa exponent fraction) :
    Rounds fraction mantissa := by
  unfold Near at near
  unfold Rounds
  dsimp only at near
  split_ifs at near ⊢ <;> constructor <;> linarith [near.1, near.2]

/-- The exponent at which a mantissa is kept. -/
theorem targetExponent_eq (total : ℤ) : Format.binary64.targetExponent total = max (total - 53) (-1074) :=
  rfl

/-- A fraction that is not too coarse is kept at the exponent of its size. -/
theorem shiftToTargetExponent_eq {mantissa : ℕ} {exponent : ℤ} {accuracy : UnpackedFloat.Accuracy} {fraction : ℚ}
    (tells : Tells (.ofMantissaAndAccuracy mantissa accuracy) fraction) {target : ℤ}
    (size : max (totalExponent mantissa exponent - 53) (-1074) = target) (fine : exponent ≤ target) :
    ∃ kept, UnpackedFloat.shiftToTargetExponent .binary64 mantissa exponent accuracy = (kept, target) ∧
      Tells kept (fraction * 2 ^ (exponent - target)) := by
  have shift : ((target - exponent).toNat : ℤ) = target - exponent := Int.toNat_of_nonneg (by omega)
  refine ⟨ExtendedMantissa.ofMantissaAndAccuracy mantissa accuracy >>> (target - exponent).toNat, ?_, ?_⟩
  · simp only [UnpackedFloat.shiftToTargetExponent, targetExponent_eq, size, UnpackedFloat.shiftToExponent, shift]
    congr 1
    omega
  · rw [zpow_eq_inv_pow 2 (by omega), neg_sub, ← div_eq_mul_inv]
    exact tells.shiftRight _

/-- A number is kept as it is stored. -/
theorem shiftToTargetExponent_canonical {mantissa : ℕ} {exponent : ℤ} (canonical : Canonical mantissa exponent) :
    UnpackedFloat.shiftToTargetExponent .binary64 mantissa exponent .exact =
      (⟨mantissa, false, false⟩, exponent) := by
  have size : max (totalExponent mantissa exponent - 53) (-1074) = exponent := by
    have bounded := canonical.bounded
    have high : mantissa.log2 < 53 := (Nat.log2_lt canonical.positive.ne').mpr canonical.short
    unfold totalExponent
    by_cases normal : mantissa < 2 ^ 52
    · have same := canonical.normal normal
      have low : mantissa.log2 < 52 := (Nat.log2_lt canonical.positive.ne').mpr normal
      omega
    · have low : 52 ≤ mantissa.log2 := (Nat.le_log2 canonical.positive.ne').mpr (Nat.not_lt.mp normal)
      omega
  simp only [UnpackedFloat.shiftToTargetExponent, targetExponent_eq, size, UnpackedFloat.shiftToExponent, sub_self,
    Int.toNat_zero, Nat.cast_zero, add_zero]
  rfl

/-- A mantissa that has been rounded up to a power of two is kept with one bit less. -/
theorem shiftToTargetExponent_carried {exponent : ℤ} (bounded : -1074 < exponent) :
    UnpackedFloat.shiftToTargetExponent .binary64 (2 ^ 53) (exponent - 1) .exact =
      (⟨2 ^ 52, false, false⟩, exponent) := by
  have size : max (totalExponent (2 ^ 53) (exponent - 1) - 53) (-1074) = exponent := by
    have log : (2 ^ 53 : ℕ).log2 = 53 := by decide
    unfold totalExponent
    omega
  have one : exponent - (exponent - 1) = 1 := by omega
  simp only [UnpackedFloat.shiftToTargetExponent, targetExponent_eq, size, UnpackedFloat.shiftToExponent, one,
    Int.toNat_one, Nat.cast_one, sub_add_cancel]
  rfl

/-- The size of a fraction. -/
theorem totalExponent_bounds {mantissa : ℕ} {exponent : ℤ} {accuracy : UnpackedFloat.Accuracy} {fraction : ℚ}
    (tells : Tells (.ofMantissaAndAccuracy mantissa accuracy) fraction) (positive : 0 < mantissa) :
    (2 : ℚ) ^ (totalExponent mantissa exponent - 1) ≤ fraction * 2 ^ exponent ∧
      fraction * 2 ^ exponent < 2 ^ totalExponent mantissa exponent := by
  have kept : (ExtendedMantissa.ofMantissaAndAccuracy mantissa accuracy).mantissa = mantissa := by
    unfold ExtendedMantissa.ofMantissaAndAccuracy
    split <;> rfl
  obtain ⟨low, high⟩ := tells.bounds
  rw [kept] at low high
  have unit : (0 : ℚ) < 2 ^ exponent := zpow_pos (by norm_num) exponent
  have least : ((2 ^ mantissa.log2 : ℕ) : ℚ) ≤ mantissa := Nat.cast_le.mpr (Nat.log2_self_le positive.ne')
  have most : ((mantissa + 1 : ℕ) : ℚ) ≤ (2 ^ (mantissa.log2 + 1) : ℕ) := Nat.cast_le.mpr Nat.lt_log2_self
  push_cast at least most
  unfold totalExponent
  constructor
  · have split : (mantissa.log2 : ℤ) + 1 + exponent - 1 = mantissa.log2 + exponent := by ring
    rw [split, zpow_add₀ (by norm_num), zpow_natCast]
    exact mul_le_mul_of_nonneg_right (by linarith) unit.le
  · have digits : (mantissa.log2 : ℤ) + 1 = ((mantissa.log2 + 1 : ℕ) : ℤ) := by
      push_cast
      ring
    rw [zpow_add₀ (by norm_num), digits, zpow_natCast]
    exact mul_lt_mul_of_pos_right (by linarith) unit

theorem totalExponent_le {mantissa : ℕ} {exponent power : ℤ} {accuracy : UnpackedFloat.Accuracy} {fraction : ℚ}
    (tells : Tells (.ofMantissaAndAccuracy mantissa accuracy) fraction) (positive : 0 < mantissa)
    (less : fraction * 2 ^ exponent < 2 ^ power) : totalExponent mantissa exponent ≤ power := by
  have powers := (totalExponent_bounds tells positive).1.trans_lt less
  have := (zpow_lt_zpow_iff_right₀ (one_lt_two : (1 : ℚ) < 2)).mp powers
  omega

theorem lt_totalExponent {mantissa : ℕ} {exponent power : ℤ} {accuracy : UnpackedFloat.Accuracy} {fraction : ℚ}
    (tells : Tells (.ofMantissaAndAccuracy mantissa accuracy) fraction) (positive : 0 < mantissa)
    (more : 2 ^ power ≤ fraction * 2 ^ exponent) : power < totalExponent mantissa exponent :=
  (zpow_lt_zpow_iff_right₀ (one_lt_two : (1 : ℚ) < 2)).mp (more.trans_lt (totalExponent_bounds tells positive).2)

/-- A fraction below one is kept at the least exponent. -/
theorem exponent_le_of_zero {exponent : ℤ} (fine : exponent ≤ max (totalExponent 0 exponent - 53) (-1074)) :
    exponent ≤ -1074 := by
  have log : (0 : ℕ).log2 = 0 := by decide
  unfold totalExponent at fine
  omega

/-- What is near a stored number is kept at its exponent, unless it lies just below a power of two and so can be kept
more precisely. -/
theorem Near.target {mantissa : ℕ} {exponent : ℤ} {accuracy : UnpackedFloat.Accuracy} {fraction : ℚ}
    (tells : Tells (.ofMantissaAndAccuracy mantissa accuracy) fraction)
    (fine : exponent ≤ max (totalExponent mantissa exponent - 53) (-1074)) {stored : ℕ} {place : ℤ}
    (canonical : Canonical stored place) (near : Near stored place (fraction * 2 ^ (exponent - place))) :
    max (totalExponent mantissa exponent - 53) (-1074) = place ∨
      max (totalExponent mantissa exponent - 53) (-1074) = place - 1 ∧ stored = 2 ^ 52 ∧ place ≠ -1074 ∧
        fraction * 2 ^ (exponent - place) < 2 ^ 52 := by
  obtain ⟨low, high⟩ := near.bounds
  have bounded := canonical.bounded
  have short : (stored : ℚ) + 1 ≤ 2 ^ 53 := by exact_mod_cast canonical.short
  have unit : (0 : ℚ) < 2 ^ place := zpow_pos (by norm_num) place
  have value : fraction * 2 ^ exponent = fraction * 2 ^ (exponent - place) * 2 ^ place := by
    rw [mul_assoc, ← zpow_add₀ two_ne_zero, sub_add_cancel]
  have below (power : ℤ) (less : fraction * 2 ^ (exponent - place) < 2 ^ power) (positive : 0 < mantissa) :
      totalExponent mantissa exponent ≤ power + place := by
    refine totalExponent_le tells positive ?_
    rw [value, zpow_add₀ two_ne_zero]
    exact mul_lt_mul_of_pos_right less unit
  have above (power : ℤ) (more : 2 ^ power ≤ fraction * 2 ^ (exponent - place)) (positive : 0 < mantissa) :
      power + place < totalExponent mantissa exponent := by
    refine lt_totalExponent tells positive ?_
    rw [value, zpow_add₀ two_ne_zero]
    exact mul_le_mul_of_nonneg_right more unit.le
  by_cases least : place = -1074
  · left
    rcases Nat.eq_zero_or_pos mantissa with nothing | positive
    · rw [nothing] at fine ⊢
      have := exponent_le_of_zero fine
      have log : (0 : ℕ).log2 = 0 := by decide
      unfold totalExponent
      omega
    · have := below 53 (by norm_num at short ⊢; linarith) positive
      omega
  · have normal : 2 ^ 52 ≤ stored := by
      by_contra small
      exact least (canonical.normal (Nat.not_le.mp small))
    have large : (4503599627370496 : ℚ) ≤ stored := by exact_mod_cast normal
    have positive : 0 < mantissa := by
      by_contra nothing
      have zero : mantissa = 0 := by omega
      rw [zero] at fine tells
      have small : (2 : ℚ) ^ (exponent - place) ≤ 1 := by
        have := exponent_le_of_zero fine
        exact zpow_le_one_of_nonpos₀ (by norm_num) (by omega)
      have part : 0 ≤ fraction ∧ fraction < 1 := by
        have kept : (ExtendedMantissa.ofMantissaAndAccuracy 0 accuracy).mantissa = 0 := by
          unfold ExtendedMantissa.ofMantissaAndAccuracy
          split <;> rfl
        have bounds := tells.bounds
        rw [kept] at bounds
        norm_num at bounds
        exact bounds
      have product : fraction * 2 ^ (exponent - place) ≤ 1 :=
        mul_le_one₀ part.2.le (zpow_pos (by norm_num) _).le small
      linarith
    by_cases full : (2 : ℚ) ^ 52 ≤ fraction * 2 ^ (exponent - place)
    · left
      have := below 53 (by norm_num at short ⊢; linarith) positive
      have := above 52 (by norm_num at full ⊢; linarith) positive
      omega
    · right
      have less := not_le.mp full
      have exact : stored = 2 ^ 52 := by
        have close : (stored : ℚ) < (2 ^ 52 + 1 : ℕ) := by push_cast; linarith
        have := Nat.cast_lt.mp close
        omega
      have := below 52 (by norm_num at less ⊢; linarith) positive
      have := above 51 (by norm_num; linarith) positive
      exact ⟨by omega, exact, least, less⟩

/-- What is near a stored number is rounded to it. -/
theorem roundWithAccuracy_eq {mantissa : ℕ} {exponent : ℤ} {accuracy : UnpackedFloat.Accuracy} {fraction : ℚ}
    (tells : Tells (.ofMantissaAndAccuracy mantissa accuracy) fraction)
    (fine : exponent ≤ max (totalExponent mantissa exponent - 53) (-1074)) {stored : ℕ} {place : ℤ}
    (canonical : Canonical stored place) (near : Near stored place (fraction * 2 ^ (exponent - place)))
    (sign : UnpackedFloat.Sign) :
    UnpackedFloat.roundWithAccuracy .binary64 sign mantissa exponent accuracy =
      .finite sign stored place canonical.positive := by
  obtain ⟨kept, shifted, told⟩ := shiftToTargetExponent_eq tells rfl fine
  unfold UnpackedFloat.roundWithAccuracy
  rcases near.target tells fine canonical with same | ⟨finer, power, above, less⟩
  · rw [same] at shifted told
    have rounded := told.roundedMantissa near.rounds
    simp only [shifted, rounded, shiftToTargetExponent_canonical canonical, dif_neg canonical.positive.ne']
  · rw [finer] at shifted told
    subst power
    have twice : fraction * 2 ^ (exponent - (place - 1)) = fraction * 2 ^ (exponent - place) * 2 := by
      rw [mul_assoc, ← zpow_add_one₀ (by norm_num)]
      congr 2
      ring
    have low : (2 : ℚ) ^ 52 - 1 / 4 ≤ fraction * 2 ^ (exponent - place) := by
      have even : (2 ^ 52 : ℕ) % 2 = 0 := by norm_num
      have bounds := near
      simp only [Near, even, if_true, above, true_and, ne_eq, not_false_eq_true] at bounds
      exact_mod_cast bounds.1
    have rounds : Rounds (fraction * 2 ^ (exponent - (place - 1))) (2 ^ 53) := by
      have even : (2 ^ 53 : ℕ) % 2 = 0 := by norm_num
      rw [Rounds, if_pos even, twice]
      push_cast
      constructor <;> linarith
    have rounded := told.roundedMantissa rounds
    have bounded : -1074 < place := lt_of_le_of_ne canonical.bounded (Ne.symm above)
    simp only [shifted, rounded, shiftToTargetExponent_carried bounded]
    rw [dif_neg (by norm_num)]

end UnpackedFloat

end Workbench
