import Workbench.Decimal.Print
import Workbench.Proofs.Decimal.Nearest

namespace Workbench.Decimal

open UnpackedFloat (Canonical Near Reads)

namespace Ratio

/-- The fraction as a rational number. -/
def toRat (a : Ratio) : ℚ :=
  a.num / a.den

variable {a b : Ratio}

theorem le_iff (left : 0 < a.den) (right : 0 < b.den) : a.le b = true ↔ a.toRat ≤ b.toRat := by
  have above : (0 : ℚ) < a.den := by exact_mod_cast left
  have below : (0 : ℚ) < b.den := by exact_mod_cast right
  rw [toRat, toRat, div_le_div_iff₀ above below, le, decide_eq_true_iff]
  exact_mod_cast Iff.rfl

theorem lt_iff (left : 0 < a.den) (right : 0 < b.den) : a.lt b = true ↔ a.toRat < b.toRat := by
  have above : (0 : ℚ) < a.den := by exact_mod_cast left
  have below : (0 : ℚ) < b.den := by exact_mod_cast right
  rw [toRat, toRat, div_lt_div_iff₀ above below, lt, decide_eq_true_iff]
  exact_mod_cast Iff.rfl

theorem den_ofPower (mantissa : ℕ) {base : ℕ} (positive : 0 < base) (exponent : ℤ) :
    0 < (ofPower mantissa base exponent).den := by
  unfold ofPower
  split
  · exact Nat.one_pos
  · exact Nat.pow_pos positive

theorem toRat_ofPower (mantissa base : ℕ) (exponent : ℤ) :
    (ofPower mantissa base exponent).toRat = mantissa * base ^ exponent := by
  unfold ofPower toRat
  by_cases whole : 0 ≤ exponent
  · rw [if_pos whole, zpow_eq_pow base whole]
    simp
  · rw [if_neg whole, zpow_eq_inv_pow base (not_le.mp whole).le, ← div_eq_mul_inv]
    simp

theorem den_inTens (positive : 0 < a.den) (power : ℤ) : 0 < (a.inTens power).den := by
  unfold inTens
  split
  · exact Nat.mul_pos positive (Nat.pow_pos (by norm_num))
  · exact positive

theorem toRat_inTens (a : Ratio) (power : ℤ) : (a.inTens power).toRat = a.toRat / 10 ^ power := by
  unfold inTens toRat
  by_cases whole : 0 ≤ power
  · rw [if_pos whole, zpow_eq_pow 10 whole, div_div]
    simp
  · rw [if_neg whole, zpow_eq_inv_pow 10 (not_le.mp whole).le, div_inv_eq_mul, div_mul_eq_mul_div]
    simp

end Ratio

theorem digitCount_bounds {n : ℕ} (positive : 0 < n) : 10 ^ (digitCount n - 1) ≤ n ∧ n < 10 ^ digitCount n := by
  have some : 0 < digitCount n := Nat.length_toDigits_pos
  refine ⟨?_, (Nat.length_toDigits_le_iff (by norm_num) some).mp le_rfl⟩
  rcases Nat.eq_zero_or_pos (digitCount n - 1) with one | more
  · rw [one]
    exact positive
  · by_contra less
    have short : digitCount n ≤ digitCount n - 1 :=
      (Nat.length_toDigits_le_iff (by norm_num) more).mpr (Nat.not_le.mp less)
    omega

/-- The point stands behind the first digit that is not zero. -/
theorem Ratio.decimalPoint_bounds {a : Ratio} (num : 0 < a.num) (den : 0 < a.den) :
    10 ^ (a.decimalPoint - 1) ≤ a.toRat ∧ a.toRat < 10 ^ a.decimalPoint := by
  have unit : (0 : ℚ) < a.den := by exact_mod_cast den
  have more : (0 : ℚ) < a.num := by exact_mod_cast num
  unfold Ratio.decimalPoint Ratio.toRat
  by_cases whole : a.den ≤ a.num
  · have some : 0 < a.num / a.den := Nat.div_pos whole den
    obtain ⟨low, high⟩ := digitCount_bounds some
    have length : 0 < digitCount (a.num / a.den) := Nat.length_toDigits_pos
    have exponent : (digitCount (a.num / a.den) : ℤ) - 1 = ((digitCount (a.num / a.den) - 1 : ℕ) : ℤ) := by omega
    rw [if_pos whole, exponent, zpow_natCast, zpow_natCast, le_div_iff₀ unit, div_lt_iff₀ unit]
    constructor
    · exact_mod_cast (Nat.mul_le_mul_right _ low).trans (Nat.div_mul_le_self _ _)
    · exact_mod_cast (Nat.lt_mul_of_div_lt high den)
  · have less : a.num ≤ a.den - 1 := by omega
    have some : 0 < (a.den - 1) / a.num := Nat.div_pos less num
    obtain ⟨low, high⟩ := digitCount_bounds some
    have length : 0 < digitCount ((a.den - 1) / a.num) := Nat.length_toDigits_pos
    have first : (1 : ℤ) - digitCount ((a.den - 1) / a.num) - 1 = -(digitCount ((a.den - 1) / a.num) : ℤ) := by ring
    have second : (1 : ℤ) - digitCount ((a.den - 1) / a.num) =
        -((digitCount ((a.den - 1) / a.num) - 1 : ℕ) : ℤ) := by omega
    rw [if_neg whole, first, second, zpow_neg, zpow_neg, zpow_natCast, zpow_natCast, inv_le_comm₀ (by positivity)
      (by positivity), inv_div, div_le_iff₀ more, lt_inv_comm₀ (by positivity) (by positivity), inv_div,
      lt_div_iff₀ more]
    constructor
    · have most : a.den ≤ 10 ^ digitCount ((a.den - 1) / a.num) * a.num := by
        have := Nat.lt_mul_of_div_lt high num
        omega
      exact_mod_cast most
    · have least : 10 ^ (digitCount ((a.den - 1) / a.num) - 1) * a.num < a.den := by
        have := (Nat.mul_le_mul_right a.num low).trans (Nat.div_mul_le_self _ _)
        omega
      exact_mod_cast least

variable {mantissa : ℕ} {exponent : ℤ}

/-- A value lies in the interval of a number just when it is read as that number. -/
theorem holds_iff (positive : 0 < mantissa) {a : Ratio} (den : 0 < a.den) :
    (roundingInterval mantissa exponent).holds a = true ↔ Reads mantissa exponent a.toRat := by
  have unit : (0 : ℚ) < 2 ^ exponent := zpow_pos two_pos exponent
  have quarter : (2 : ℚ) ^ (exponent - 2) = 2 ^ exponent / 4 := by
    rw [zpow_sub₀ two_ne_zero]
    norm_num
  have large : (1 : ℚ) ≤ mantissa := by exact_mod_cast positive
  have low : (roundingInterval mantissa exponent).low.toRat =
      (mantissa - if mantissa = 2 ^ 52 ∧ exponent ≠ -1074 then 1 / 4 else 1 / 2) * 2 ^ exponent := by
    have cast (below : ℕ) (few : below ≤ 2) : ((4 * mantissa - below : ℕ) : ℚ) = 4 * mantissa - below := by
      rw [Nat.cast_sub (by omega)]
      push_cast
      ring
    simp only [roundingInterval, Ratio.toRat_ofPower, Nat.cast_ofNat, quarter, Bool.and_eq_true, decide_eq_true_eq,
      show Nat.pow 2 52 = 2 ^ 52 from rfl]
    split
    · rw [cast 1 (by norm_num)]
      push_cast
      ring
    · rw [cast 2 le_rfl]
      push_cast
      ring
  have high : (roundingInterval mantissa exponent).high.toRat = (mantissa + 1 / 2) * 2 ^ exponent := by
    simp only [roundingInterval, Ratio.toRat_ofPower, Nat.cast_ofNat, quarter]
    push_cast
    ring
  have lowDen : 0 < (roundingInterval mantissa exponent).low.den := Ratio.den_ofPower _ two_pos _
  have highDen : 0 < (roundingInterval mantissa exponent).high.den := Ratio.den_ofPower _ two_pos _
  have closed : (roundingInterval mantissa exponent).closed = decide (mantissa % 2 = 0) := rfl
  unfold RoundingInterval.holds Reads Near
  simp only [closed, decide_eq_true_eq]
  split
  · rw [Bool.and_eq_true, Ratio.le_iff lowDen den, Ratio.le_iff den highDen, low, high, le_div_iff₀ unit,
      div_le_iff₀ unit]
  · rw [Bool.and_eq_true, Ratio.lt_iff lowDen den, Ratio.lt_iff den highDen, low, high, lt_div_iff₀ unit,
      div_lt_iff₀ unit]

theorem holds_count_iff (positive : 0 < mantissa) (count : ℕ) (power : ℤ) :
    (roundingInterval mantissa exponent).holds (.ofPower count 10 power) = true ↔
      Reads mantissa exponent (count * 10 ^ power) := by
  rw [holds_iff positive (Ratio.den_ofPower _ (by norm_num) _), Ratio.toRat_ofPower]
  norm_num

theorem roundDiv_eq_or (num den : ℕ) : roundDiv num den = num / den ∨ roundDiv num den = num / den + 1 := by
  unfold roundDiv
  dsimp only
  split_ifs
  · exact Or.inl rfl
  · exact Or.inr rfl
  · exact Or.inl rfl
  · exact Or.inr rfl

/-- A hit is read as the number. -/
theorem reads_of_gridHit? (positive : 0 < mantissa) {value : Ratio} {power : ℤ} {count : ℕ}
    (hit : gridHit? (roundingInterval mantissa exponent) value power = some count) :
    Reads mantissa exponent (count * 10 ^ power) := by
  rw [← holds_count_iff positive]
  unfold gridHit? at hit
  dsimp only at hit
  split at hit
  · cases hit
    rcases roundDiv_eq_or (value.inTens power).num (value.inTens power).den with lower | upper
    · rwa [lower]
    · rwa [upper]
  · cases hit
    assumption
  · cases hit
    assumption
  · cases hit

theorem exists_gridHit?_of_holds {interval : RoundingInterval} {value : Ratio} {power : ℤ}
    (hit : interval.holds (.ofPower ((value.inTens power).num / (value.inTens power).den) 10 power) = true ∨
      interval.holds (.ofPower ((value.inTens power).num / (value.inTens power).den + 1) 10 power) = true) :
    ∃ count, gridHit? interval value power = some count := by
  unfold gridHit?
  dsimp only
  rcases hit with lower | upper
  · rw [lower]
    cases interval.holds (.ofPower ((value.inTens power).num / (value.inTens power).den + 1) 10 power) <;>
      exact ⟨_, rfl⟩
  · rw [upper]
    cases interval.holds (.ofPower ((value.inTens power).num / (value.inTens power).den) 10 power) <;>
      exact ⟨_, rfl⟩

/-- Only zero is read as zero. -/
theorem pos_of_reads {count : ℕ} {power : ℤ} (reads : Reads mantissa exponent (count * 10 ^ power))
    (positive : 0 < mantissa) : 0 < count := by
  by_contra none
  have zero : count = 0 := by omega
  have large : (1 : ℚ) ≤ mantissa := by exact_mod_cast positive
  have low := (Near.bounds reads).1
  rw [zero, Nat.cast_zero, zero_mul, zero_div] at low
  linarith

/-- Of two neighbours on a grid whose steps are below one unit, and below three quarters of one at a power of two, one
is near the number that lies between them. -/
theorem near_or_near (positive : 0 < mantissa) (short : mantissa < 2 ^ 53) {floor step : ℚ} (before : floor ≤ mantissa)
    (behind : mantissa < floor + step) (fine : 10 ^ 16 * step ≤ mantissa) :
    Near mantissa exponent floor ∨ Near mantissa exponent (floor + step) := by
  have many : (mantissa : ℚ) < 9007199254740992 := by exact_mod_cast short
  have some : (1 : ℚ) ≤ mantissa := by exact_mod_cast positive
  unfold Near
  by_cases power : mantissa = 2 ^ 52 ∧ exponent ≠ -1074
  · have value : (mantissa : ℚ) = 2 ^ 52 := by exact_mod_cast power.1
    have even : mantissa % 2 = 0 := by rw [power.1]; rfl
    simp only [if_pos power, if_pos even]
    norm_num at value fine
    exact Or.inr ⟨by linarith, by linarith⟩
  · simp only [if_neg power]
    norm_num at fine
    have close : (mantissa : ℚ) - 1 / 2 < floor ∨ floor + step < mantissa + 1 / 2 := by
      by_contra far
      rw [not_or, not_lt, not_lt] at far
      linarith [far.1, far.2]
    rcases close with near | near
    · left
      split
      · exact ⟨near.le, by linarith⟩
      · exact ⟨near, by linarith⟩
    · right
      split
      · exact ⟨by linarith, near.le⟩
      · exact ⟨by linarith, near⟩

theorem Ratio.floor_bounds {a : Ratio} (den : 0 < a.den) :
    ((a.num / a.den : ℕ) : ℚ) ≤ a.toRat ∧ a.toRat < ((a.num / a.den : ℕ) : ℚ) + 1 := by
  have unit : (0 : ℚ) < a.den := by exact_mod_cast den
  refine ⟨Nat.cast_div_le, ?_⟩
  rw [Ratio.toRat, div_lt_iff₀ unit]
  exact_mod_cast Nat.lt_mul_of_div_lt (Nat.lt_succ_self _) den

/-- On a grid that is fine enough one of two neighbours is read as the number. -/
theorem exists_gridHit? (positive : 0 < mantissa) (short : mantissa < 2 ^ 53) {power : ℤ}
    (fine : 10 ^ 16 * 10 ^ power ≤ (mantissa * 2 ^ exponent : ℚ)) :
    ∃ count, gridHit? (roundingInterval mantissa exponent) (.ofPower mantissa 2 exponent) power = some count := by
  have den : 0 < ((Ratio.ofPower mantissa 2 exponent).inTens power).den :=
    Ratio.den_inTens (Ratio.den_ofPower _ two_pos _) power
  have unit : (0 : ℚ) < 2 ^ exponent := zpow_pos two_pos exponent
  have step : (0 : ℚ) < 10 ^ power := zpow_pos (by norm_num) power
  have exact : ((Ratio.ofPower mantissa 2 exponent).inTens power).toRat * 10 ^ power = mantissa * 2 ^ exponent := by
    rw [Ratio.toRat_inTens, div_mul_cancel₀ _ step.ne', Ratio.toRat_ofPower, Nat.cast_ofNat]
  obtain ⟨lower, upper⟩ := Ratio.floor_bounds den
  refine exists_gridHit?_of_holds ?_
  rw [holds_count_iff positive, holds_count_iff positive]
  generalize ((Ratio.ofPower mantissa 2 exponent).inTens power).num /
    ((Ratio.ofPower mantissa 2 exponent).inTens power).den = floor at lower upper ⊢
  have next : ((floor + 1 : ℕ) : ℚ) * 10 ^ power / 2 ^ exponent =
      floor * 10 ^ power / 2 ^ exponent + 10 ^ power / 2 ^ exponent := by
    push_cast
    ring
  unfold Reads
  rw [next]
  refine near_or_near positive short ?_ ?_ ?_
  · rw [div_le_iff₀ unit, ← exact]
    exact mul_le_mul_of_nonneg_right lower step.le
  · rw [← add_div, lt_div_iff₀ unit, ← exact, ← add_one_mul]
    exact mul_lt_mul_of_pos_right upper step
  · rw [← mul_div_assoc, div_le_iff₀ unit]
    exact fine

/-- The fewest digits are read as the number. -/
theorem exists_shortest (canonical : Canonical mantissa exponent) :
    ∃ (count : ℕ) (power : ℤ), 0 < count ∧ Reads mantissa exponent (count * 10 ^ power) ∧
      shortest mantissa exponent = Digits.ofCount count power := by
  let value := Ratio.ofPower mantissa 2 exponent
  let attempt (n : ℕ) : Option Digits :=
    (gridHit? (roundingInterval mantissa exponent) value (value.decimalPoint - (n + 1))).map fun count =>
      Digits.ofCount count (value.decimalPoint - (n + 1))
  have unfolded : shortest mantissa exponent = ((List.range 17).findSome? attempt).getD (.ofCount 0 0) := rfl
  cases found : (List.range 17).findSome? attempt with
  | none =>
    have last : attempt 16 = none := List.findSome?_eq_none_iff.mp found 16 (by decide)
    have num : 0 < value.num := by
      have positive := canonical.positive
      unfold value Ratio.ofPower
      split
      · exact Nat.mul_pos positive (Nat.pow_pos two_pos)
      · exact positive
    have whole : value.toRat = mantissa * 2 ^ exponent := by
      unfold value
      rw [Ratio.toRat_ofPower]
      norm_num
    have fine : 10 ^ 16 * 10 ^ (value.decimalPoint - (16 + 1)) ≤ (mantissa * 2 ^ exponent : ℚ) := by
      have low := (Ratio.decimalPoint_bounds num (Ratio.den_ofPower _ two_pos _)).1
      have powers : (10 : ℚ) ^ 16 * 10 ^ (value.decimalPoint - (16 + 1)) = 10 ^ (value.decimalPoint - 1) := by
        rw [← zpow_natCast, ← zpow_add₀ (by norm_num)]
        congr 1
        push_cast
        ring
      rw [powers, ← whole]
      exact low
    obtain ⟨count, hit⟩ := exists_gridHit? canonical.positive canonical.short fine
    have some : attempt 16 = Option.some (Digits.ofCount count (value.decimalPoint - (16 + 1))) := by
      simp only [attempt, value, Nat.cast_ofNat] at hit ⊢
      rw [hit]
      rfl
    rw [some] at last
    cases last
  | some digits =>
    obtain ⟨n, _, hit⟩ := List.exists_of_findSome?_eq_some found
    obtain ⟨count, hit, same⟩ := Option.map_eq_some_iff.mp hit
    have reads := reads_of_gridHit? canonical.positive hit
    refine ⟨count, _, pos_of_reads reads canonical.positive, reads, ?_⟩
    rw [unfolded, found, same]
    rfl

end Workbench.Decimal
