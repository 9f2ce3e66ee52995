import Workbench.Proofs.Decimal.Shortest

namespace Workbench

namespace Text

/-- The value of a digit. -/
def digitValue (c : Char) : ℕ :=
  c.toNat - 48

/-- Whether a text is made of digits. -/
def AllDigits (cs : List Char) : Prop :=
  ∀ c ∈ cs, c.isDigit = true

theorem asciiDigit?_of_isDigit {c : Char} (digit : c.isDigit = true) : asciiDigit? c = some (digitValue c) := by
  have bounds : '0' ≤ c ∧ c ≤ '9' := by
    simp only [Char.isDigit, Bool.and_eq_true, decide_eq_true_eq] at digit
    exact digit
  simp [asciiDigit?, bounds, digitValue]

theorem isDigit_of_asciiDigit? {c : Char} {d : ℕ} (digit : asciiDigit? c = some d) : c.isDigit = true := by
  unfold asciiDigit? at digit
  split at digit
  · rename_i bounds
    simp only [Bool.and_eq_true, decide_eq_true_eq] at bounds
    simp only [Char.isDigit, Bool.and_eq_true, decide_eq_true_eq]
    exact bounds
  · cases digit

theorem digitValue_lt {c : Char} (digit : c.isDigit = true) : digitValue c < 10 := by
  simp only [Char.isDigit, Bool.and_eq_true, decide_eq_true_eq] at digit
  have most : c.toNat ≤ 57 := digit.2
  unfold digitValue
  omega

namespace AllDigits

variable {front back : List Char}

theorem append (one : AllDigits front) (other : AllDigits back) : AllDigits (front ++ back) := by
  intro c member
  rcases List.mem_append.mp member with member | member
  · exact one c member
  · exact other c member

theorem zeros (count : ℤ) : AllDigits (Decimal.zeros count) := by
  intro c member
  rw [List.eq_of_mem_replicate member]
  rfl

theorem toDigits (n : ℕ) : AllDigits (Nat.toDigits 10 n) := fun _ member =>
  Nat.isDigit_of_mem_toDigits (by norm_num) le_rfl member

theorem values_lt (digits : AllDigits front) : ∀ d ∈ front.map digitValue, d < 10 := by
  intro d member
  obtain ⟨c, inside, rfl⟩ := List.mem_map.mp member
  exact digitValue_lt (digits c inside)

end AllDigits

end Text

namespace Decimal

open Text (AllDigits digitValue)

theorem ofDigits_values (cs : List Char) : ofDigits (cs.map digitValue) = Nat.ofDigitChars 10 cs 0 := by
  rw [ofDigits, List.foldl_map]
  rfl

theorem ofDigitChars_append (front back : List Char) :
    Nat.ofDigitChars 10 (front ++ back) 0 =
      Nat.ofDigitChars 10 front 0 * 10 ^ back.length + Nat.ofDigitChars 10 back 0 := by
  rw [Nat.ofDigitChars_append, Nat.ofDigitChars_eq_ofDigitChars_zero, Nat.mul_comm]

/-- A number is written without a leading zero. -/
theorem head?_toDigits {n : ℕ} (positive : 0 < n) : (Nat.toDigits 10 n).head? ≠ some '0' := by
  induction n using Nat.strong_induction_on with
  | _ n ih =>
    rw [Nat.toDigits_eq_if (by norm_num)]
    split
    · rename_i small
      interval_cases n <;> decide
    · rename_i large
      rw [List.head?_append_of_ne_nil _ Nat.toDigits_ne_nil]
      exact ih (n / 10) (by omega) (by omega)

/-- An exponent is written as a sign and digits. -/
theorem exists_exponentMark (power : ℤ) :
    ∃ c tail, AllDigits (c :: tail) ∧ ofDigits ((c :: tail).map digitValue) = power.natAbs ∧
      exponentMark power = 'e' :: (if power < 0 then '-' else '+') :: c :: tail := by
  have digits := AllDigits.toDigits power.natAbs
  have value : Nat.ofDigitChars 10 (Nat.toDigits 10 power.natAbs) 0 = power.natAbs := Nat.ofDigitChars_ten_toDigits
  have filled : Nat.toDigits 10 power.natAbs ≠ [] := Nat.toDigits_ne_nil
  unfold exponentMark
  dsimp only
  by_cases short : (Nat.toDigits 10 power.natAbs).length < 2
  · rw [if_pos short]
    refine ⟨'0', Nat.toDigits 10 power.natAbs, (AllDigits.toDigits 0).append digits, ?_, rfl⟩
    rw [ofDigits_values, Nat.ofDigitChars_cons]
    exact value
  · rw [if_neg short]
    obtain ⟨c, tail, written⟩ := List.exists_cons_of_ne_nil filled
    rw [written] at digits value ⊢
    exact ⟨c, tail, digits, (ofDigits_values _).trans value, rfl⟩

/-- Whether digits are those of a number, and of which. -/
structure Digits.Writes (d : Digits) (value : ℚ) : Prop where
  digits : AllDigits d.digits
  lead : d.digits.head? ≠ some '0'
  filled : d.digits ≠ []
  value : (Nat.ofDigitChars 10 d.digits 0 : ℚ) * 10 ^ (d.point - d.digits.length) = value

theorem Digits.writes_ofCount {count : ℕ} (positive : 0 < count) (power : ℤ) :
    (Digits.ofCount count power).Writes (count * 10 ^ power) := by
  let written := Nat.toDigits 10 count
  let kept := (written.reverse.dropWhile (· == '0')).reverse
  let dropped := (written.reverse.takeWhile (· == '0')).length
  have parts : written = kept ++ List.replicate dropped '0' := by
    have last : (written.reverse.takeWhile (· == '0')).reverse = List.replicate dropped '0' := by
      refine List.eq_replicate_iff.mpr ⟨List.length_reverse, ?_⟩
      intro c member
      simpa using List.mem_takeWhile_imp (List.mem_reverse.mp member)
    rw [← last, ← List.reverse_append, List.takeWhile_append_dropWhile, List.reverse_reverse]
  have value : count = 10 ^ dropped * Nat.ofDigitChars 10 kept 0 := by
    have whole : Nat.ofDigitChars 10 written 0 = count := Nat.ofDigitChars_ten_toDigits
    rw [← whole, parts, Nat.ofDigitChars_append, Nat.ofDigitChars_replicate_zero]
  have some : kept ≠ [] := by
    intro none
    rw [none, Nat.ofDigitChars_nil, Nat.mul_zero] at value
    exact positive.ne' value
  have filled : kept.isEmpty = false := by simpa using some
  have same : Digits.ofCount count power = ⟨kept, written.length + power⟩ := by
    simp only [Digits.ofCount]
    rw [show (List.dropWhile (fun x => x == '0') (Nat.toDigits 10 count).reverse).reverse.isEmpty = false from filled]
    rfl
  rw [same]
  refine ⟨?_, ?_, some, ?_⟩
  · intro c member
    refine AllDigits.toDigits count c ?_
    change c ∈ written
    rw [parts]
    exact List.mem_append_left _ member
  · have head := head?_toDigits positive
    change written.head? ≠ _ at head
    rwa [parts, List.head?_append_of_ne_nil _ some] at head
  · have length : (written.length : ℤ) = kept.length + dropped := by
      rw [parts, List.length_append, List.length_replicate]
      push_cast
      rfl
    have exponent : (written.length : ℤ) + power - kept.length = dropped + power := by omega
    simp only [exponent]
    rw [zpow_add₀ (by norm_num), zpow_natCast, ← mul_assoc]
    congr 1
    rw [mul_comm]
    exact_mod_cast value.symm

/-- A number that is not written as a whole one: digits with a fraction, an exponent or both. -/
structure Numeral where
  whole : List Char
  fraction : List Char
  power : Option ℤ

namespace Numeral

def text (n : Numeral) : List Char :=
  n.whole ++ ((if n.fraction.isEmpty then [] else '.' :: n.fraction) ++ n.power.elim [] exponentMark)

def value (n : Numeral) : ℚ :=
  (Nat.ofDigitChars 10 (n.whole ++ n.fraction) 0 : ℕ) * 10 ^ (n.power.getD 0 - n.fraction.length)

/-- What a reader asks of a number. A leading zero stands alone. -/
structure Proper (n : Numeral) : Prop where
  whole : AllDigits n.whole
  filled : n.whole ≠ []
  lead : n.whole.head? = some '0' → n.whole = ['0']
  fraction : AllDigits n.fraction
  marked : n.fraction ≠ [] ∨ n.power ≠ none

end Numeral

namespace Digits.Writes

variable {d : Digits} {value : ℚ} (writes : d.Writes value)

include writes

/-- A fraction below one has zeros between the point and its digits. -/
theorem small (point : d.point ≤ 0) :
    (⟨['0'], zeros (-d.point) ++ d.digits, none⟩ : Numeral).Proper ∧
      (⟨['0'], zeros (-d.point) ++ d.digits, none⟩ : Numeral).value = value := by
  have filled : zeros (-d.point) ++ d.digits ≠ [] := by simp [writes.filled]
  have length : ((zeros (-d.point) ++ d.digits).length : ℤ) = -d.point + d.digits.length := by
    rw [List.length_append, zeros, List.length_replicate]
    omega
  have exponent : (0 : ℤ) - (zeros (-d.point) ++ d.digits).length = d.point - d.digits.length := by omega
  have digits : Nat.ofDigitChars 10 (['0'] ++ (zeros (-d.point) ++ d.digits)) 0 = Nat.ofDigitChars 10 d.digits 0 := by
    rw [ofDigitChars_append, ofDigitChars_append]
    simp [zeros, Nat.ofDigitChars_cons]
  refine ⟨⟨AllDigits.toDigits 0, by simp, fun _ => rfl, (AllDigits.zeros _).append writes.digits, Or.inl filled⟩, ?_⟩
  rw [Numeral.value, Option.getD_none, exponent, digits]
  exact writes.value

/-- A whole number has zeros behind its digits and a fractional one. -/
theorem large (point : (d.digits.length : ℤ) ≤ d.point) :
    (⟨d.digits ++ zeros (d.point - d.digits.length), ['0'], none⟩ : Numeral).Proper ∧
      (⟨d.digits ++ zeros (d.point - d.digits.length), ['0'], none⟩ : Numeral).value = value := by
  have lead : (d.digits ++ zeros (d.point - d.digits.length)).head? = d.digits.head? :=
    List.head?_append_of_ne_nil _ writes.filled
  have digits : Nat.ofDigitChars 10 (d.digits ++ zeros (d.point - d.digits.length) ++ ['0']) 0 =
      10 * (10 ^ (d.point - d.digits.length).toNat * Nat.ofDigitChars 10 d.digits 0) := by
    simp [zeros, Nat.ofDigitChars_append, Nat.ofDigitChars_cons]
  refine ⟨⟨writes.digits.append (AllDigits.zeros _), by simp [writes.filled], ?_, AllDigits.toDigits 0,
    Or.inl (by simp)⟩, ?_⟩
  · intro zero
    exact absurd (lead.symm.trans zero) writes.lead
  · rw [← writes.value, zpow_eq_pow 10 (sub_nonneg.mpr point), Numeral.value, Option.getD_none, digits]
    simp
    ring

/-- The point can stand among the digits, if the exponent makes up for it. -/
theorem parted {front back : List Char} (parts : front ++ back = d.digits) (filled : front ≠ []) {power : Option ℤ}
    (marked : back ≠ [] ∨ power ≠ none) (exponent : power.getD 0 - back.length = d.point - d.digits.length) :
    (⟨front, back, power⟩ : Numeral).Proper ∧ (⟨front, back, power⟩ : Numeral).value = value := by
  refine ⟨⟨?_, filled, ?_, ?_, marked⟩, ?_⟩
  · exact fun c member => writes.digits c (parts ▸ List.mem_append_left back member)
  · intro zero
    have head : d.digits.head? = some '0' := by rw [← parts, List.head?_append_of_ne_nil _ filled, zero]
    exact absurd head writes.lead
  · exact fun c member => writes.digits c (parts ▸ List.mem_append_right front member)
  · rw [Numeral.value, parts, exponent]
    exact writes.value

/-- Digits are laid out as a number that has their value. -/
theorem exists_layOut : ∃ n : Numeral, n.Proper ∧ n.value = value ∧ d.layOut plainLayout = n.text := by
  have positive : 0 < d.digits.length := List.length_pos_iff.mpr writes.filled
  have shown {cs : List Char} (filled : cs ≠ []) : (if cs.isEmpty then [] else '.' :: cs) = '.' :: cs := by
    rw [if_neg (by simpa using filled)]
  unfold Digits.layOut
  dsimp only
  by_cases positional : -4 < d.point ∧ d.point ≤ plainLayout.limit
  · rw [if_pos (by simpa using positional)]
    by_cases point : d.point ≤ 0
    · obtain ⟨proper, same⟩ := writes.small point
      refine ⟨_, proper, same, ?_⟩
      rw [if_pos point, Numeral.text, shown (by simp [writes.filled]), Option.elim_none, List.append_nil]
      rfl
    · rw [if_neg point]
      by_cases whole : (d.digits.length : ℤ) ≤ d.point
      · obtain ⟨proper, same⟩ := writes.large whole
        exact ⟨_, proper, same, by simp [whole, Numeral.text, plainLayout]⟩
      · have front : d.digits.take d.point.toNat ≠ [] := by
          rw [← List.length_pos_iff, List.length_take]
          omega
        have back : d.digits.drop d.point.toNat ≠ [] := by
          rw [← List.length_pos_iff, List.length_drop]
          omega
        have exponent : (none : Option ℤ).getD 0 - (d.digits.drop d.point.toNat).length =
            d.point - d.digits.length := by
          rw [List.length_drop, Option.getD_none]
          omega
        obtain ⟨proper, same⟩ := writes.parted (List.take_append_drop _ _) front (Or.inl back) exponent
        refine ⟨_, proper, same, ?_⟩
        rw [if_neg whole, Numeral.text, shown back, Option.elim_none, List.append_nil]
  · have front : d.digits.take 1 ≠ [] := by
      rw [← List.length_pos_iff, List.length_take]
      omega
    have exponent : (some (d.point - 1)).getD 0 - (d.digits.drop 1).length = d.point - d.digits.length := by
      rw [List.length_drop, Option.getD_some]
      omega
    obtain ⟨proper, same⟩ := writes.parted (List.take_append_drop _ _) front (Or.inr (by simp)) exponent
    refine ⟨_, proper, same, ?_⟩
    rw [if_neg (by simpa using positional), Numeral.text, Option.elim_some, List.append_assoc]

end Digits.Writes

end Decimal

end Workbench
