import Workbench.Json.Parser
import Workbench.Json.Printer
import Workbench.Proofs.Decimal.Numeral

namespace Workbench

namespace Decimal

open Text (AllDigits digitValue)

/-- The digits in front are read up to the first character that is none. -/
theorem digitRun_append {front rest : List Char} (digits : AllDigits front)
    (stops : ∀ c ∈ rest.head?, c.isDigit = false) :
    digitRun Text.asciiDigit? (front ++ rest) = (front.map digitValue, rest) := by
  induction front with
  | nil =>
    cases rest with
    | nil => rfl
    | cons c rest =>
      have other : Text.asciiDigit? c = none := by
        rw [Option.eq_none_iff_forall_ne_some]
        intro d digit
        exact absurd (Text.isDigit_of_asciiDigit? digit) (by simp [stops c rfl])
      simp only [List.nil_append, digitRun, other, List.map_nil]
  | cons c front ih =>
    have tail := ih fun other member => digits other (List.mem_cons_of_mem _ member)
    simp only [List.cons_append, digitRun, Text.asciiDigit?_of_isDigit (digits c List.mem_cons_self), tail,
      List.map_cons]

end Decimal

namespace Json

open Decimal (Numeral)
open Text (AllDigits digitValue)

/-- Whether what follows a value ends it. -/
def Ends (rest : List Char) : Prop :=
  ∀ c ∈ rest.head?, c = ',' ∨ c = ']' ∨ c = '}'

variable {rest : List Char}

theorem Ends.stops (ends : Ends rest) : ∀ c ∈ rest.head?, c.isDigit = false := by
  intro c member
  rcases ends c member with rfl | rfl | rfl <;> rfl

theorem Ends.fractionOf (ends : Ends rest) : fractionOf rest = none := by
  cases rest with
  | nil => rfl
  | cons c rest => rcases ends c rfl with rfl | rfl | rfl <;> rfl

theorem Ends.exponentOf (ends : Ends rest) : exponentOf rest = none := by
  cases rest with
  | nil => rfl
  | cons c rest => rcases ends c rfl with rfl | rfl | rfl <;> rfl

/-- A sign in front of digits. -/
def signed (negative : Bool) (cs : List Char) : List Char :=
  if negative then '-' :: cs else cs

/-- A number is a sign, a whole part in which a leading zero stands alone, and what may follow. -/
theorem number_signed {whole more after : List Char} {values : List ℕ} (negative : Bool) (digits : AllDigits whole)
    (some : whole ≠ []) (lead : whole.head? = .some '0' → whole = ['0'])
    (stops : ∀ c ∈ more.head?, c.isDigit = false) (read : (fractionOf more).getD ([], more) = (values, after)) :
    number (signed negative (whole ++ more)) =
      if (fractionOf more).isNone && (exponentOf after).isNone then
        if Decimal.digitLimit < whole.length then
          stopAt (.tooManyDigits whole.length) (signed negative (whole ++ more))
        else .ok (.int (if negative then -(Decimal.ofDigits (whole.map digitValue) : ℤ)
          else Decimal.ofDigits (whole.map digitValue)), more)
      else
        .ok (.float (Decimal.nearest negative (whole.map digitValue ++ values)
          (((exponentOf after).getD (0, after)).1 - values.length)), ((exponentOf after).getD (0, after)).2) := by
  obtain ⟨c, tail, rfl⟩ := List.exists_cons_of_ne_nil some
  have first : c ≠ '-' := by
    rintro rfl
    exact absurd (digits '-' List.mem_cons_self) (by decide)
  have run : digitsOf (c :: (tail ++ more)) = ((c :: tail).map digitValue, more) :=
    Decimal.digitRun_append digits stops
  unfold number
  by_cases zero : c = '0'
  · obtain rfl := zero
    have alone := lead rfl
    simp only [List.cons.injEq, true_and] at alone
    rw [alone]
    cases negative <;>
      simp only [signed, Bool.false_eq_true, if_false, if_true, ↓Char.isValue, List.cons_append, List.nil_append,
        List.cons.injEq, Char.reduceEq, false_and, imp_self, implies_true, List.isEmpty_cons, read] <;>
      cases fractionOf more <;> cases exponentOf after <;> rfl
  · cases negative <;>
      simp only [signed, Bool.false_eq_true, if_false, if_true, ↓Char.isValue, List.cons_append, List.cons.injEq, first,
        zero, false_and, imp_self, implies_true, run, List.map_cons, List.isEmpty_cons, List.length_cons,
        List.length_map, read] <;>
      cases fractionOf more <;> cases exponentOf after <;> rfl

theorem exponentOf_mark (ends : Ends rest) (power : ℤ) :
    exponentOf (Decimal.exponentMark power ++ rest) = some (power, rest) := by
  obtain ⟨c, tail, digits, value, mark⟩ := Decimal.exists_exponentMark power
  have run : digitsOf (c :: (tail ++ rest)) = ((c :: tail).map digitValue, rest) :=
    Decimal.digitRun_append digits ends.stops
  have sign : Decimal.splitSign ((if power < 0 then '-' else '+') :: c :: (tail ++ rest)) =
      (decide (power < 0), c :: (tail ++ rest)) := by
    by_cases below : power < 0 <;> simp [below, Decimal.splitSign]
  rw [List.map_cons] at run value
  rw [mark]
  simp only [List.cons_append, exponentOf, BEq.rfl, Bool.true_or, if_true, sign, run, value, decide_eq_true_eq,
    Int.ofNat_eq_natCast]
  by_cases below : power < 0
  · rw [if_pos below, Int.ofNat_natAbs_of_nonpos below.le, neg_neg]
  · rw [if_neg below, Int.natAbs_of_nonneg (not_lt.mp below)]

/-- A point is followed by the digits of a fraction. -/
theorem fractionOf_point {fraction more : List Char} (digits : AllDigits fraction) (filled : fraction ≠ [])
    (stops : ∀ c ∈ more.head?, c.isDigit = false) :
    fractionOf ('.' :: (fraction ++ more)) = some (fraction.map digitValue, more) := by
  obtain ⟨c, tail, rfl⟩ := List.exists_cons_of_ne_nil filled
  have run : digitsOf (c :: tail ++ more) = ((c :: tail).map digitValue, more) := Decimal.digitRun_append digits stops
  simp only [fractionOf, run, List.map_cons]

/-- What may follow the digits of a number: an exponent or nothing. -/
theorem mark_cases (ends : Ends rest) (power : Option ℤ) :
    (∀ c ∈ (power.elim [] Decimal.exponentMark ++ rest).head?, c.isDigit = false) ∧
      fractionOf (power.elim [] Decimal.exponentMark ++ rest) = none ∧
      exponentOf (power.elim [] Decimal.exponentMark ++ rest) = power.map (·, rest) ∧
      (power.map (·, rest)).getD (0, power.elim [] Decimal.exponentMark ++ rest) = (power.getD 0, rest) := by
  cases power with
  | none => exact ⟨ends.stops, ends.fractionOf, ends.exponentOf, rfl⟩
  | some power =>
    refine ⟨fun c member => ?_, rfl, exponentOf_mark ends power, rfl⟩
    cases member
    rfl

theorem number_numeral {n : Numeral} (proper : n.Proper) (ends : Ends rest) (negative : Bool) :
    number (signed negative (n.text ++ rest)) =
      .ok (.float (Decimal.nearest negative ((n.whole ++ n.fraction).map digitValue)
        (n.power.getD 0 - n.fraction.length)), rest) := by
  obtain ⟨whole, fraction, power⟩ := n
  obtain ⟨digits, filled, lead, fractionDigits, marked⟩ := proper
  dsimp only at digits filled lead fractionDigits marked ⊢
  obtain ⟨stops, plain, exponent, after⟩ := mark_cases ends power
  rw [Numeral.text, List.append_assoc, List.append_assoc, List.map_append]
  generalize power.elim [] Decimal.exponentMark ++ rest = more at stops plain exponent after ⊢
  cases fraction with
  | nil =>
    obtain ⟨size, rfl⟩ := Option.ne_none_iff_exists'.mp (marked.resolve_left (by simp))
    have read : (fractionOf more).getD ([], more) = ([], more) := by rw [plain, Option.getD_none]
    refine (number_signed negative digits filled lead stops read).trans ?_
    rw [plain, exponent]
    rfl
  | cons c tail =>
    have found := fractionOf_point fractionDigits (List.cons_ne_nil c tail) stops
    have read : (fractionOf ('.' :: (c :: tail ++ more))).getD ([], '.' :: (c :: tail ++ more)) =
        ((c :: tail).map digitValue, more) := by rw [found, Option.getD_some]
    have point : ∀ d ∈ ('.' :: (c :: tail ++ more)).head?, d.isDigit = false := by
      intro d member
      cases member
      rfl
    refine (number_signed negative digits filled lead point read).trans ?_
    rw [found, exponent, after, List.length_map]
    rfl

/-- A whole number is read as it is, unless it has too many digits. -/
theorem number_int {n : ℤ} (short : Decimal.isVast n = false) (ends : Ends rest) :
    number ((toString n).toList ++ rest) = .ok (.int n, rest) := by
  have text : (toString n).toList = signed (n < 0) (Nat.toDigits 10 n.natAbs) := by
    cases n with
    | ofNat n => simp [toString, Int.repr, signed]
    | negSucc n => simp [toString, Int.repr, signed]
  have lead : (Nat.toDigits 10 n.natAbs).head? = some '0' → Nat.toDigits 10 n.natAbs = ['0'] := by
    rcases Nat.eq_zero_or_pos n.natAbs with zero | positive
    · rw [zero]
      exact fun _ => rfl
    · exact fun zero => absurd zero (Decimal.head?_toDigits positive)
  have more : signed (n < 0) (Nat.toDigits 10 n.natAbs) ++ rest =
      signed (n < 0) (Nat.toDigits 10 n.natAbs ++ rest) := by
    unfold signed
    split <;> rfl
  rw [text, more]
  have read : (fractionOf rest).getD ([], rest) = ([], rest) := by rw [ends.fractionOf, Option.getD_none]
  refine (number_signed _ (AllDigits.toDigits _) Nat.toDigits_ne_nil lead ends.stops read).trans ?_
  rw [ends.fractionOf, ends.exponentOf, Option.isNone_none, Option.isNone_none, Bool.and_true, if_pos rfl,
    if_neg (of_decide_eq_false short), Decimal.ofDigits_values, Nat.ofDigitChars_ten_toDigits]
  congr 3
  by_cases below : n < 0
  · rw [if_pos (by simpa using below), Int.ofNat_natAbs_of_nonpos below.le, neg_neg]
  · rw [if_neg (by simpa using below), Int.natAbs_of_nonneg (not_lt.mp below)]

/-- A finite number is read as it is. -/
theorem number_float {x : Float} (finite : x.isFinite = true) (ends : Ends rest) :
    number ((float x).toList ++ rest) = .ok (.float x, rest) := by
  obtain ⟨negative, mantissa, exponent, parts⟩ := Decimal.Binary.exists_ofFloat finite
  have text (cs : List Char) : (Decimal.signed negative cs).toList ++ rest = signed negative (cs ++ rest) := by
    rw [Decimal.signed, String.toList_ofList]
    cases negative <;> rfl
  rw [float, parts]
  simp only [Decimal.plain, Decimal.print, parts, text]
  rcases Nat.eq_zero_or_pos mantissa with zero | positive
  · rw [zero] at parts
    rw [if_pos zero]
    have zeros : (⟨['0'], 1⟩ : Decimal.Digits).layOut Decimal.plainLayout =
        (⟨['0'], ['0'], none⟩ : Numeral).text := rfl
    have proper : (⟨['0'], ['0'], none⟩ : Numeral).Proper :=
      ⟨AllDigits.toDigits 0, by simp, fun _ => rfl, AllDigits.toDigits 0, Or.inl (by simp)⟩
    rw [zeros, number_numeral proper ends, Decimal.nearest_zero parts (by decide)]
  · rw [if_neg positive.ne']
    rcases Decimal.Binary.unpack_of_ofFloat parts with ⟨none, _⟩ | ⟨canonical, _, _⟩
    · exact absurd none positive.ne'
    obtain ⟨count, power, some, reads, same⟩ := Decimal.exists_shortest canonical
    obtain ⟨n, proper, value, laid⟩ := (Decimal.Digits.writes_ofCount some power).exists_layOut
    rw [same, laid, number_numeral proper ends]
    have digits : AllDigits (n.whole ++ n.fraction) := proper.whole.append proper.fraction
    have read : UnpackedFloat.Reads mantissa exponent (Decimal.ofDigits ((n.whole ++ n.fraction).map digitValue) *
        10 ^ (n.power.getD 0 - n.fraction.length)) := by
      rw [Decimal.ofDigits_values]
      change UnpackedFloat.Reads mantissa exponent n.value
      rwa [value]
    rw [Decimal.nearest_eq parts positive digits.values_lt read]

end Json

end Workbench
