import Workbench.Proofs.Decimal.Stored

namespace Workbench

open Float.Model (Format UnpackedFloat totalExponent)
open Float.Model.UnpackedFloat (ExtendedMantissa)

namespace UnpackedFloat

theorem tells_exact (whole : ℕ) : Tells (.ofMantissaAndAccuracy whole .exact) whole :=
  rfl

section Remainder

variable {num den : ℕ} (positive : 0 < den)

include positive

/-- A fraction is its whole part and the rest. -/
theorem div_eq_whole_add_rest : (num / den : ℚ) = (num / den : ℕ) + (num % den : ℕ) / den := by
  have unit : (den : ℚ) ≠ 0 := Nat.cast_ne_zero.mpr positive.ne'
  have whole : (num : ℚ) = den * (num / den : ℕ) + (num % den : ℕ) := by
    exact_mod_cast (Nat.div_add_mod num den).symm
  rw [div_eq_iff unit, add_mul, div_mul_cancel₀ _ unit, mul_comm]
  exact whole

theorem rest_lt_one : ((num % den : ℕ) : ℚ) / den < 1 := by
  rw [div_lt_one (Nat.cast_pos.mpr positive)]
  exact_mod_cast Nat.mod_lt num positive

theorem rest_lt_half (low : 2 * (num % den) < den) : ((num % den : ℕ) : ℚ) / den < 1 / 2 := by
  rw [div_lt_div_iff₀ (Nat.cast_pos.mpr positive) two_pos, mul_comm, one_mul]
  exact_mod_cast low

theorem rest_eq_half (half : 2 * (num % den) = den) : ((num % den : ℕ) : ℚ) / den = 1 / 2 := by
  rw [div_eq_div_iff (Nat.cast_ne_zero.mpr positive.ne') two_ne_zero, mul_comm, one_mul]
  exact_mod_cast half

theorem half_lt_rest (high : den < 2 * (num % den)) : 1 / 2 < ((num % den : ℕ) : ℚ) / den := by
  rw [div_lt_div_iff₀ two_pos (Nat.cast_pos.mpr positive), mul_comm _ (2 : ℚ), one_mul]
  exact_mod_cast high

end Remainder

/-- A quotient with the accuracy of its remainder tells of the fraction. -/
theorem tells_div (num : ℕ) {den : ℕ} (positive : 0 < den) :
    Tells (.ofMantissaAndAccuracy (num / den) (UnpackedFloat.accuracyOfFraction (num % den) den)) (num / den : ℚ) := by
  have unit : (0 : ℚ) < den := by exact_mod_cast positive
  rw [div_eq_whole_add_rest positive]
  unfold UnpackedFloat.accuracyOfFraction
  by_cases none : num % den = 0
  · rw [if_pos none, none]
    simp [Tells, ExtendedMantissa.ofMantissaAndAccuracy]
  · have some : (0 : ℚ) < ((num % den : ℕ) : ℚ) / den :=
      div_pos (by exact_mod_cast Nat.pos_of_ne_zero none) unit
    rw [if_neg none]
    rcases lt_trichotomy (2 * (num % den)) den with low | half | high
    · rw [Nat.compare_eq_lt.mpr low]
      have below := rest_lt_half positive low
      exact ⟨by simpa [ExtendedMantissa.ofMantissaAndAccuracy] using some,
        by simpa [ExtendedMantissa.ofMantissaAndAccuracy] using below⟩
    · rw [Nat.compare_eq_eq.mpr half, rest_eq_half positive half]
      rfl
    · rw [Nat.compare_eq_gt.mpr high]
      have above := half_lt_rest positive high
      have less : ((num % den : ℕ) : ℚ) / den < 1 := rest_lt_one positive
      exact ⟨by simpa [ExtendedMantissa.ofMantissaAndAccuracy] using above,
        by simpa [ExtendedMantissa.ofMantissaAndAccuracy] using less⟩

/-- Whether a value is one that the nearest number with a stored mantissa and exponent stands for. -/
def Reads (mantissa : ℕ) (exponent : ℤ) (value : ℚ) : Prop :=
  Near mantissa exponent (value / 2 ^ exponent)

variable {stored : ℕ} {place : ℤ} (canonical : Canonical stored place)

theorem mul_eq {m₁ m₂ : ℕ} {e₁ e₂ : ℤ} (p₁ : 0 < m₁) (p₂ : 0 < m₂) (large : 2 ^ 52 ≤ m₁ * m₂)
    (reads : Reads stored place (m₁ * 2 ^ e₁ * (m₂ * 2 ^ e₂))) (s₁ s₂ : UnpackedFloat.Sign) :
    UnpackedFloat.mul .binary64 (.finite s₁ m₁ e₁ p₁) (.finite s₂ m₂ e₂ p₂) =
      .finite (s₁ * s₂) stored place canonical.positive := by
  have value : ((m₁ * m₂ : ℕ) : ℚ) * 2 ^ (e₁ + e₂ - place) = m₁ * 2 ^ e₁ * (m₂ * 2 ^ e₂) / 2 ^ place := by
    rw [zpow_sub₀ two_ne_zero, zpow_add₀ two_ne_zero]
    push_cast
    ring
  refine roundWithAccuracy_eq (tells_exact (m₁ * m₂)) ?_ canonical ?_ _
  · have log := (Nat.le_log2 (Nat.mul_pos p₁ p₂).ne').mpr large
    unfold totalExponent
    omega
  · rw [value]
    exact reads

theorem div_eq {m₁ m₂ : ℕ} {e₁ e₂ : ℤ} (p₁ : 0 < m₁) (p₂ : 0 < m₂)
    (reads : Reads stored place (m₁ * 2 ^ e₁ / (m₂ * 2 ^ e₂))) (s₁ s₂ : UnpackedFloat.Sign) :
    UnpackedFloat.div .binary64 (.finite s₁ m₁ e₁ p₁) (.finite s₂ m₂ e₂ p₂) =
      .finite (s₁ / s₂) stored place canonical.positive := by
  let target := min (e₁ - e₂) (Format.binary64.targetExponent (totalExponent m₁ e₁ - totalExponent m₂ e₂))
  let shift := (e₁ - e₂ - target).toNat
  have low : target ≤ e₁ - e₂ := min_le_left _ _
  have room : (shift : ℤ) = e₁ - e₂ - target := Int.toNat_of_nonneg (by omega)
  have value : ((m₁ <<< shift : ℕ) / m₂ : ℚ) * 2 ^ (target - place) =
      m₁ * 2 ^ e₁ / (m₂ * 2 ^ e₂) / 2 ^ place := by
    have split : target - place = e₁ - e₂ - shift - place := by omega
    rw [split, zpow_sub₀ two_ne_zero, zpow_sub₀ two_ne_zero, zpow_sub₀ two_ne_zero, zpow_natCast, Nat.shiftLeft_eq]
    push_cast
    field_simp
  refine roundWithAccuracy_eq (tells_div (m₁ <<< shift) p₂) ?_ canonical ?_ _
  · by_cases least : target ≤ -1074
    · exact least.trans (le_max_right _ _)
    · -- The quotient has all the digits that are kept.
      have estimate : target ≤ totalExponent m₁ e₁ - totalExponent m₂ e₂ - 53 := by
        have bound : target ≤ max (totalExponent m₁ e₁ - totalExponent m₂ e₂ - 53) (-1074) := min_le_right _ _
        omega
      have long : m₂.log2 + 53 ≤ m₁.log2 + shift := by
        unfold totalExponent at estimate
        omega
      have many : 2 ^ 52 ≤ (m₁ <<< shift) / m₂ := by
        rw [Nat.le_div_iff_mul_le p₂, Nat.shiftLeft_eq]
        calc 2 ^ 52 * m₂ ≤ 2 ^ 52 * 2 ^ (m₂.log2 + 1) := Nat.mul_le_mul_left _ Nat.lt_log2_self.le
          _ = 2 ^ (m₂.log2 + 53) := by rw [← pow_add]; congr 1; omega
          _ ≤ 2 ^ (m₁.log2 + shift) := Nat.pow_le_pow_right two_pos long
          _ = 2 ^ m₁.log2 * 2 ^ shift := pow_add _ _ _
          _ ≤ m₁ * 2 ^ shift := Nat.mul_le_mul_right _ (Nat.log2_self_le p₁.ne')
      have log := (Nat.le_log2 (by omega)).mpr many
      unfold totalExponent
      omega
  · rw [value]
    exact reads

/-- Whether a value lies within the bounds of what is stored as a number other than zero. -/
structure Storable (value : ℚ) : Prop where
  least : 2 ^ (-1075 : ℤ) ≤ value
  most : value < 2 ^ (1024 : ℤ)

theorem Reads.storable {value : ℚ} (canonical : Canonical stored place) (fits : place ≤ 971)
    (reads : Reads stored place value) : Storable value := by
  have unit : (0 : ℚ) < 2 ^ place := zpow_pos two_pos place
  have one : (1 : ℚ) ≤ stored := by exact_mod_cast canonical.positive
  have short : (stored : ℚ) + 1 ≤ 2 ^ 53 := by exact_mod_cast canonical.short
  obtain ⟨low, high⟩ := Near.bounds reads
  rw [le_div_iff₀ unit] at low
  rw [div_le_iff₀ unit] at high
  constructor
  · calc (2 : ℚ) ^ (-1075 : ℤ) = 1 / 2 * 2 ^ (-1074 : ℤ) := by
          rw [one_div_mul_eq_div, div_eq_mul_inv, ← zpow_sub_one₀ two_ne_zero]
          rfl
      _ ≤ 1 / 2 * 2 ^ place :=
          mul_le_mul_of_nonneg_left (zpow_le_zpow_right₀ one_le_two canonical.bounded) (by norm_num)
      _ ≤ (stored - 1 / 2) * 2 ^ place := mul_le_mul_of_nonneg_right (by linarith) unit.le
      _ ≤ value := low
  · calc value ≤ (stored + 1 / 2) * 2 ^ place := high
      _ < 2 ^ 53 * 2 ^ place := mul_lt_mul_of_pos_right (by linarith) unit
      _ ≤ 2 ^ 53 * 2 ^ (971 : ℤ) := mul_le_mul_of_nonneg_left (zpow_le_zpow_right₀ one_le_two fits) (by norm_num)
      _ = 2 ^ (1024 : ℤ) := by
          rw [← zpow_natCast, ← zpow_add₀ two_ne_zero]
          rfl

/-- No decimal within the bounds is put aside for its exponent. -/
theorem Storable.power_bounds {count : ℕ} {power : ℤ} (positive : 0 < count)
    (storable : Storable (count * 10 ^ power)) : power ≤ 2048 ∧ -(2048 + (count.log2 : ℤ)) ≤ power := by
  have one : (1 : ℚ) ≤ count := by exact_mod_cast positive
  constructor
  · by_contra large
    have : (2 : ℚ) ^ (1024 : ℤ) ≤ count * 10 ^ power :=
      calc (2 : ℚ) ^ (1024 : ℤ) ≤ 2 ^ power := zpow_le_zpow_right₀ one_le_two (by omega)
        _ ≤ 10 ^ power := zpow_le_zpow_left₀ (by omega) (by norm_num) (by norm_num)
        _ ≤ count * 10 ^ power := le_mul_of_one_le_left (by positivity) one
    linarith [storable.most]
  · by_contra small
    have short : (count : ℚ) < 2 ^ ((count.log2 : ℤ) + 1) := by exact_mod_cast Nat.lt_log2_self
    have unit : (10 : ℚ) ^ power ≤ 2 ^ power := by
      rw [← inv_le_inv₀ (by positivity) (by positivity), ← zpow_neg, ← zpow_neg]
      exact zpow_le_zpow_left₀ (by omega) (by norm_num) (by norm_num)
    have : (count : ℚ) * 10 ^ power < 2 ^ (-1075 : ℤ) :=
      calc (count : ℚ) * 10 ^ power < 2 ^ ((count.log2 : ℤ) + 1) * 10 ^ power :=
            mul_lt_mul_of_pos_right short (by positivity)
        _ ≤ 2 ^ ((count.log2 : ℤ) + 1) * 2 ^ power := mul_le_mul_of_nonneg_left unit (by positivity)
        _ = 2 ^ ((count.log2 : ℤ) + 1 + power) := (zpow_add₀ two_ne_zero _ _).symm
        _ ≤ 2 ^ (-1075 : ℤ) := zpow_le_zpow_right₀ one_le_two (by omega)
    linarith [storable.least]

theorem ofScientific_eq {count : ℕ} {power : ℤ} (positive : 0 < count) (fits : place ≤ 971)
    (reads : Reads stored place (count * 10 ^ power)) :
    UnpackedFloat.ofScientific .binary64 count power = .finite .positive stored place canonical.positive := by
  obtain ⟨notLarge, notSmall⟩ := (reads.storable canonical fits).power_bounds positive
  have size : (2 : ℤ) ^ Format.binary64.exponentBits = 2048 := rfl
  simp only [UnpackedFloat.ofScientific, size, gt_iff_lt, dif_neg positive.ne', if_neg (not_lt.mpr notLarge),
    if_neg (not_lt.mpr notSmall)]
  by_cases whole : 0 ≤ power
  · rw [if_pos whole]
    refine mul_eq canonical _ _ ?_ ?_ .positive .positive
    · have bits : Format.binary64.mantissaBits = 53 := rfl
      have more : 0 < 10 ^ power.toNat := by positivity
      rw [bits, Nat.shiftLeft_eq]
      nlinarith
    · have same : (count <<< Format.binary64.mantissaBits : ℕ) * (2 : ℚ) ^ (-(Format.binary64.mantissaBits : ℤ)) *
          ((10 ^ power.toNat : ℕ) * 2 ^ (0 : ℤ)) = count * 10 ^ power := by
        rw [zpow_eq_pow 10 whole, Nat.shiftLeft_eq, zpow_neg, zpow_natCast]
        push_cast
        field_simp
      rw [same]
      exact reads
  · rw [if_neg whole]
    refine div_eq canonical _ _ ?_ .positive .positive
    have same : (count : ℚ) * 2 ^ (0 : ℤ) / ((10 ^ (-power).toNat : ℕ) * 2 ^ (0 : ℤ)) = count * 10 ^ power := by
      rw [zpow_eq_inv_pow 10 (not_le.mp whole).le]
      push_cast
      simp [div_eq_mul_inv]
    rw [same]
    exact reads

theorem roundWithAccuracy_canonical (sign : UnpackedFloat.Sign) :
    UnpackedFloat.roundWithAccuracy .binary64 sign stored place .exact =
      .finite sign stored place canonical.positive := by
  have kept : (ExtendedMantissa.mk stored false false).roundedMantissa = stored := rfl
  simp only [UnpackedFloat.roundWithAccuracy, shiftToTargetExponent_canonical canonical, kept]
  rw [dif_neg canonical.positive.ne']

/-- A whole number with few digits is stored as it is. -/
theorem exists_ofNat {count : ℕ} (positive : 0 < count) (short : count < 2 ^ 53) :
    ∃ m e, ∃ canonical : Canonical m e, e ≤ 971 ∧ 2 ^ 52 ≤ m ∧ (m * 2 ^ e : ℚ) = count ∧
      UnpackedFloat.ofNat .binary64 count = .finite .positive m e canonical.positive := by
  have log : count.log2 < 53 := (Nat.log2_lt positive.ne').mpr short
  have room : count.log2 + (52 - count.log2) = 52 := by omega
  have least : 2 ^ 52 ≤ count * 2 ^ (52 - count.log2) :=
    calc 2 ^ 52 = 2 ^ count.log2 * 2 ^ (52 - count.log2) := by rw [← pow_add, room]
      _ ≤ count * 2 ^ (52 - count.log2) := Nat.mul_le_mul_right _ (Nat.log2_self_le positive.ne')
  have most : count * 2 ^ (52 - count.log2) < 2 ^ 53 :=
    calc count * 2 ^ (52 - count.log2) < 2 ^ (count.log2 + 1) * 2 ^ (52 - count.log2) :=
          Nat.mul_lt_mul_of_pos_right Nat.lt_log2_self (by positivity)
      _ = 2 ^ 53 := by rw [← pow_add]; congr 1; omega
  have canonical : Canonical (count * 2 ^ (52 - count.log2)) (-((52 - count.log2 : ℕ) : ℤ)) :=
    ⟨by omega, most, by omega, fun small => by omega⟩
  refine ⟨_, _, canonical, by omega, least, ?_, ?_⟩
  · rw [zpow_neg, zpow_natCast]
    push_cast
    field_simp
  · have shift : (-max (totalExponent count 0 - 53) (-1074)).toNat = 52 - count.log2 := by
      unfold totalExponent
      omega
    have sign : compare (count : ℤ) 0 = .gt := compare_gt_iff_gt.mpr (by exact_mod_cast positive)
    simp only [UnpackedFloat.ofNat, UnpackedFloat.ofInt, UnpackedFloat.normalize, sign, UnpackedFloat.round,
      UnpackedFloat.decreaseExponent, targetExponent_eq, Int.toNat_natCast, shift, Nat.shiftLeft_eq, zero_sub]
    exact roundWithAccuracy_canonical canonical .positive

end UnpackedFloat

namespace Float

open UnpackedFloat (Canonical Reads)

variable {stored : ℕ} {place : ℤ} (canonical : Canonical stored place)

/-- The table of the powers of ten holds each of them exactly. -/
theorem ofFloat_powerOfTen : ∀ size : Fin Float.exactlyRepresentablePowersOfTen.size,
    Decimal.Binary.ofFloat Float.exactlyRepresentablePowersOfTen[size] =
        .finite false (10 ^ size.1 * 2 ^ 52 / 2 ^ (10 ^ size.1).log2) (((10 ^ size.1).log2 : ℤ) - 52) ∧
      10 ^ size.1 * 2 ^ 52 / 2 ^ (10 ^ size.1).log2 * 2 ^ (10 ^ size.1).log2 = 10 ^ size.1 * 2 ^ 52 ∧
      2 ^ 52 ≤ 10 ^ size.1 * 2 ^ 52 / 2 ^ (10 ^ size.1).log2 := by
  decide +kernel

theorem exists_powerOfTen {size : ℕ} (small : size < Float.exactlyRepresentablePowersOfTen.size) :
    ∃ m e, ∃ canonical : Canonical m e, 2 ^ 52 ≤ m ∧ (m * 2 ^ e : ℚ) = 10 ^ size ∧
      Float.exactlyRepresentablePowersOfTen[size].toModel.unpack = .finite .positive m e canonical.positive := by
  obtain ⟨parts, exact, large⟩ := ofFloat_powerOfTen ⟨size, small⟩
  rcases Decimal.Binary.unpack_of_ofFloat parts with ⟨none, _⟩ | ⟨canonical, _, stored⟩
  · rw [none] at large
    exact absurd large (by norm_num)
  · refine ⟨_, _, canonical, large, ?_, stored⟩
    have cast : ((10 ^ size * 2 ^ 52 / 2 ^ (10 ^ size).log2 : ℕ) : ℚ) * 2 ^ (10 ^ size).log2 = 10 ^ size * 2 ^ 52 := by
      exact_mod_cast exact
    rw [zpow_sub₀ two_ne_zero, zpow_natCast, ← mul_div_assoc, cast]
    norm_num

theorem unpack_of_pack {x : Float} {a : UnpackedFloat} (packed : x.toModel = Float.Model.pack a)
    {sign : UnpackedFloat.Sign} (same : a = .finite sign stored place canonical.positive) (fits : place ≤ 971) :
    x.toModel.unpack = .finite sign stored place canonical.positive := by
  rw [packed, same]
  exact UnpackedFloat.unpack_pack_finite canonical fits sign

/-- A decimal is read as the number that it stands for. -/
theorem unpack_ofScientific {count size : ℕ} {shrink : Bool} (positive : 0 < count) (fits : place ≤ 971)
    (reads : Reads stored place (count * 10 ^ (if shrink then -(size : ℤ) else size))) :
    (Float.ofScientific count shrink size).toModel.unpack = .finite .positive stored place canonical.positive := by
  unfold Float.ofScientific
  split
  · -- Both parts are stored exactly, so that only their product or quotient is rounded.
    rename_i small
    obtain ⟨m₁, e₁, canonical₁, fits₁, large₁, value₁, whole⟩ := UnpackedFloat.exists_ofNat positive small.1
    have within : size < Float.exactlyRepresentablePowersOfTen.size := Nat.lt_succ_of_le small.2
    obtain ⟨m₂, e₂, canonical₂, large₂, value₂, tens⟩ := exists_powerOfTen within
    have kept : count.toUInt64.toNat = count := UInt64.toNat_ofNat_of_lt' (small.1.trans (by norm_num))
    have whole : count.toUInt64.toFloat.toModel.unpack = .finite .positive m₁ e₁ canonical₁.positive := by
      refine unpack_of_pack canonical₁ rfl ?_ fits₁
      rw [← whole, ← kept]
      simp only [UnpackedFloat.ofUInt64, kept]
    dsimp only
    cases shrink with
    | true =>
      rw [if_pos rfl]
      refine unpack_of_pack canonical rfl ?_ fits
      rw [whole, tens]
      refine UnpackedFloat.div_eq canonical _ _ ?_ .positive .positive
      rw [value₁, value₂]
      rw [if_pos rfl, zpow_neg, zpow_natCast] at reads
      rwa [div_eq_mul_inv]
    | false =>
      rw [if_neg Bool.false_ne_true]
      refine unpack_of_pack canonical rfl ?_ fits
      rw [whole, tens]
      refine UnpackedFloat.mul_eq canonical _ _ (large₁.trans (Nat.le_mul_of_pos_right _ canonical₂.positive)) ?_
        .positive .positive
      rw [value₁, value₂]
      rwa [if_neg Bool.false_ne_true, zpow_natCast] at reads
  · refine unpack_of_pack canonical rfl ?_ fits
    refine UnpackedFloat.ofScientific_eq canonical positive fits ?_
    cases shrink with
    | true => simpa [Int.negOfNat_eq] using reads
    | false => simpa using reads

theorem unpack_neg {x : Float} {sign : UnpackedFloat.Sign} (fits : place ≤ 971)
    (same : x.toModel.unpack = .finite sign stored place canonical.positive) :
    (-x).toModel.unpack = .finite (-sign) stored place canonical.positive := by
  refine unpack_of_pack canonical rfl ?_ fits
  rw [same]
  rfl

end Float

namespace Decimal

theorem ofDigits_append (front back : List ℕ) :
    ofDigits (front ++ back) = ofDigits front * 10 ^ back.length + ofDigits back := by
  have shift (acc : ℕ) (digits : List ℕ) :
      digits.foldl (fun acc d => 10 * acc + d) acc = acc * 10 ^ digits.length + ofDigits digits := by
    induction digits generalizing acc with
    | nil => simp [ofDigits]
    | cons d rest ih =>
      have head := ih (10 * 0 + d)
      simp only [ofDigits, List.foldl_cons, List.length_cons] at head ih ⊢
      rw [ih, head]
      ring
  rw [ofDigits, List.foldl_append]
  exact shift _ _

theorem ofDigits_cons (d : ℕ) (rest : List ℕ) : ofDigits (d :: rest) = d * 10 ^ rest.length + ofDigits rest := by
  have head : ofDigits [d] = d := by simp [ofDigits]
  rw [← List.singleton_append, ofDigits_append, head]

theorem ofDigits_lt {digits : List ℕ} (small : ∀ d ∈ digits, d < 10) : ofDigits digits < 10 ^ digits.length := by
  induction digits with
  | nil => decide
  | cons d rest ih =>
    have head := small d List.mem_cons_self
    have tail := ih fun other member => small other (List.mem_cons_of_mem _ member)
    rw [ofDigits_cons, List.length_cons, pow_succ]
    have : d * 10 ^ rest.length ≤ 9 * 10 ^ rest.length := Nat.mul_le_mul_right _ (by omega)
    omega

theorem ofDigits_dropWhile (digits : List ℕ) : ofDigits (digits.dropWhile (· == 0)) = ofDigits digits := by
  induction digits with
  | nil => rfl
  | cons d rest ih =>
    by_cases zero : d = 0
    · rw [List.dropWhile_cons_of_pos (by simpa using zero), ih, ofDigits_cons, zero]
      omega
    · rw [List.dropWhile_cons_of_neg (by simpa using zero)]

theorem le_ofDigits_dropWhile {digits : List ℕ} (some : digits.dropWhile (· == 0) ≠ []) :
    10 ^ ((digits.dropWhile (· == 0)).length - 1) ≤ ofDigits digits := by
  rw [← ofDigits_dropWhile]
  cases kept : digits.dropWhile (· == 0) with
  | nil => exact absurd kept some
  | cons d rest =>
    have first : d ≠ 0 := by
      have head := List.head_dropWhile_not (· == 0) some
      simpa [kept] using head
    rw [ofDigits_cons, List.length_cons, Nat.add_sub_cancel]
    exact Nat.le_add_right_of_le (Nat.le_mul_of_pos_left _ (Nat.pos_of_ne_zero first))

theorem two_zpow_le_ten_zpow : (2 : ℚ) ^ (1075 : ℤ) ≤ 10 ^ (400 : ℤ) :=
  calc (2 : ℚ) ^ (1075 : ℤ) ≤ 2 ^ ((3 * 400 : ℕ) : ℤ) := zpow_le_zpow_right₀ one_le_two (by norm_num)
    _ = (2 ^ 3) ^ 400 := by rw [zpow_natCast, pow_mul]
    _ ≤ 10 ^ 400 := pow_le_pow_left₀ (by norm_num) (by norm_num) 400
    _ = 10 ^ (400 : ℤ) := (zpow_natCast 10 400).symm

/-- No digits within the bounds are put aside for their magnitude. -/
theorem magnitude_bounds {digits : List ℕ} {power : ℤ} (small : ∀ d ∈ digits, d < 10)
    (storable : UnpackedFloat.Storable (ofDigits digits * 10 ^ power)) :
    digits.dropWhile (· == 0) ≠ [] ∧ -400 ≤ ((digits.dropWhile (· == 0)).length : ℤ) + power ∧
      ((digits.dropWhile (· == 0)).length : ℤ) + power ≤ 400 := by
  have value := ofDigits_dropWhile digits
  have some : digits.dropWhile (· == 0) ≠ [] := by
    intro none
    rw [none] at value
    have low := storable.least
    rw [← value, show ofDigits [] = 0 from rfl, Nat.cast_zero, zero_mul] at low
    exact absurd low (not_le.mpr (by positivity))
  have least := le_ofDigits_dropWhile some
  have most : ofDigits (digits.dropWhile (· == 0)) < 10 ^ (digits.dropWhile (· == 0)).length :=
    ofDigits_lt fun d member => small d (List.dropWhile_subset _ member)
  rw [value] at most
  generalize (digits.dropWhile (· == 0)).length = length at least most
  refine ⟨some, ?_, ?_⟩
  · by_contra tiny
    have cast : ((ofDigits digits : ℕ) : ℚ) < 10 ^ (length : ℤ) := by exact_mod_cast most
    have : ((ofDigits digits : ℕ) : ℚ) * 10 ^ power < 2 ^ (-1075 : ℤ) :=
      calc ((ofDigits digits : ℕ) : ℚ) * 10 ^ power < 10 ^ (length : ℤ) * 10 ^ power :=
            mul_lt_mul_of_pos_right cast (by positivity)
        _ = 10 ^ ((length : ℤ) + power) := (zpow_add₀ (by norm_num) _ _).symm
        _ ≤ 10 ^ (-400 : ℤ) := zpow_le_zpow_right₀ (by norm_num) (by omega)
        _ ≤ 2 ^ (-1075 : ℤ) := by
            rw [zpow_neg, zpow_neg, inv_le_inv₀ (by positivity) (by positivity)]
            exact two_zpow_le_ten_zpow
    linarith [storable.least]
  · by_contra huge
    have cast : (10 : ℚ) ^ ((length - 1 : ℕ) : ℤ) ≤ (ofDigits digits : ℕ) := by exact_mod_cast least
    have : (2 : ℚ) ^ (1024 : ℤ) ≤ (ofDigits digits : ℕ) * 10 ^ power :=
      calc (2 : ℚ) ^ (1024 : ℤ) ≤ 2 ^ (1075 : ℤ) := zpow_le_zpow_right₀ one_le_two (by norm_num)
        _ ≤ 10 ^ (400 : ℤ) := two_zpow_le_ten_zpow
        _ ≤ 10 ^ (((length - 1 : ℕ) : ℤ) + power) := zpow_le_zpow_right₀ (by norm_num) (by omega)
        _ = 10 ^ ((length - 1 : ℕ) : ℤ) * 10 ^ power := zpow_add₀ (by norm_num) _ _
        _ ≤ (ofDigits digits : ℕ) * 10 ^ power := mul_le_mul_of_nonneg_right cast (by positivity)
    linarith [storable.most]

/-- Digits that stand for a number are read as that number. -/
theorem nearest_eq {x : Float} {negative : Bool} {mantissa : ℕ} {exponent : ℤ}
    (parts : Binary.ofFloat x = .finite negative mantissa exponent) (positive : 0 < mantissa) {digits : List ℕ}
    {power : ℤ} (small : ∀ d ∈ digits, d < 10)
    (reads : UnpackedFloat.Reads mantissa exponent (ofDigits digits * 10 ^ power)) :
    nearest negative digits power = x := by
  rcases Binary.unpack_of_ofFloat parts with ⟨none, _⟩ | ⟨canonical, fits, stored⟩
  · exact absurd none positive.ne'
  obtain ⟨some, notSmall, notLarge⟩ := magnitude_bounds small (reads.storable canonical fits)
  have filled : (digits.dropWhile (· == 0)).isEmpty = false := by simpa using some
  have count : 0 < ofDigits digits := (Nat.pow_pos (by norm_num)).trans_le (le_ofDigits_dropWhile some)
  have unsigned (y : Float) (read : y.toModel.unpack = .finite .positive mantissa exponent canonical.positive) :
      (if negative then -y else y) = x := by
    rw [← Float.unpack_inj, stored]
    cases negative with
    | false => exact read
    | true => exact Float.unpack_neg canonical fits read
  unfold nearest
  simp only [filled, Bool.false_or, decide_eq_true_eq, if_neg (not_lt.mpr notSmall), if_neg (not_lt.mpr notLarge),
    ofDigits_dropWhile digits]
  refine unsigned _ ?_
  by_cases whole : 0 ≤ power
  · rw [if_pos whole]
    refine Float.unpack_ofScientific canonical count fits ?_
    rwa [if_neg Bool.false_ne_true, Int.toNat_of_nonneg whole]
  · rw [if_neg whole]
    refine Float.unpack_ofScientific canonical count fits ?_
    rwa [if_pos rfl, Int.toNat_of_nonneg (by omega), neg_neg]

/-- Zero keeps its sign. -/
theorem nearest_zero {x : Float} {negative : Bool} {exponent : ℤ}
    (parts : Binary.ofFloat x = .finite negative 0 exponent) {digits : List ℕ} {power : ℤ}
    (none : ∀ d ∈ digits, d = 0) : nearest negative digits power = x := by
  have empty : digits.dropWhile (· == 0) = [] := List.dropWhile_eq_nil_iff.mpr fun d member => by
    simpa using none d member
  rcases Binary.unpack_of_ofFloat parts with ⟨_, stored⟩ | ⟨canonical, _, _⟩
  · unfold nearest
    simp only [empty, List.isEmpty_nil, Bool.true_or, if_true]
    rw [← Float.unpack_inj, stored]
    cases negative <;> rfl
  · exact absurd canonical.positive (lt_irrefl 0)

end Decimal

end Workbench
