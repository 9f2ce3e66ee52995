import Workbench.Json.Encoding
import Workbench.Proofs.Json.Number

namespace Workbench

open Text (AllDigits digitValue)

/-- Whether a text holds more digits in a row than a whole number may have. -/
def Text.HasLongRun (cs : List Char) : Prop :=
  ∃ run, run <:+: cs ∧ AllDigits run ∧ Decimal.digitLimit < run.length

theorem Text.HasLongRun.of_isSuffix {cs whole : List Char} (long : HasLongRun cs) (within : cs <:+ whole) :
    HasLongRun whole := by
  obtain ⟨run, inside, digits, many⟩ := long
  exact ⟨run, inside.trans within.isInfix, digits, many⟩

/-- The digits in front of a text are as many as are read there. -/
theorem Decimal.exists_digitRun (cs : List Char) :
    ∃ run, cs = run ++ (digitRun Text.asciiDigit? cs).2 ∧ AllDigits run ∧
      run.length = (digitRun Text.asciiDigit? cs).1.length := by
  induction cs with
  | nil => exact ⟨[], rfl, List.forall_mem_nil _, rfl⟩
  | cons c rest ih =>
    rw [digitRun]
    cases digit : Text.asciiDigit? c with
    | none => exact ⟨[], rfl, List.forall_mem_nil _, rfl⟩
    | some d =>
      obtain ⟨run, whole, digits, same⟩ := ih
      refine ⟨c :: run, congrArg (c :: ·) whole, ?_, congrArg Nat.succ same⟩
      exact List.forall_mem_cons.mpr ⟨Text.isDigit_of_asciiDigit? digit, digits⟩

namespace Json

/-- Whether a step on a text leaves the end of it, or stops for its form or at too many digits in it. -/
def Reads {α : Type} (cs : List Char) : Except Stop (α × List Char) → Prop
  | .ok (_, rest) => rest <:+ cs
  | .error stop => stop.reason.isFormal = true ∨ Text.HasLongRun cs

variable {α : Type} {cs whole rest : List Char}

theorem Reads.of_isSuffix {step : Except Stop (α × List Char)} (reads : Reads cs step) (within : cs <:+ whole) :
    Reads whole step := by
  cases step with
  | ok read => exact List.IsSuffix.trans reads within
  | error stop => exact Or.imp_right (fun long : Text.HasLongRun cs => long.of_isSuffix within) reads

theorem isSuffix_behind {c : Char} {after : List Char} (same : rest = c :: after) (left : rest <:+ cs) : after <:+ cs :=
  List.IsSuffix.trans ⟨[c], same.symm⟩ left

theorem isSuffix_skipSpace (cs : List Char) : skipSpace cs <:+ cs :=
  List.dropWhile_suffix _

theorem isSuffix_digitsOf (cs : List Char) : (digitsOf cs).2 <:+ cs := by
  obtain ⟨run, same, _, _⟩ := Decimal.exists_digitRun cs
  exact ⟨run, same.symm⟩

theorem isSuffix_fractionOf {found : List Nat × List Char} (read : fractionOf cs = some found) : found.2 <:+ cs := by
  unfold fractionOf at read
  split at read
  · rename_i rest
    split at read
    · cases read
    · cases read
      exact (isSuffix_digitsOf rest).trans (List.suffix_cons _ _)
  · cases read

theorem isSuffix_exponentOf {found : Int × List Char} (read : exponentOf cs = some found) : found.2 <:+ cs := by
  unfold exponentOf at read
  split at read
  · rename_i c tail
    split at read
    · have signed : (Decimal.splitSign tail).2 <:+ tail := by
        unfold Decimal.splitSign
        split <;> first | exact List.suffix_cons _ _ | exact List.suffix_rfl
      dsimp only at read
      split at read
      · cases read
      · rename_i digits after _ found
        have left := isSuffix_digitsOf (Decimal.splitSign tail).2
        rw [found] at left
        cases read
        exact (left.trans signed).trans (List.suffix_cons _ _)
    · cases read
  · cases read

/-- What may be left out leaves the end of a text, whether it is there or not. -/
theorem isSuffix_getD {part : Option (α × List Char)} (read : ∀ found, part = some found → found.2 <:+ cs)
    (default : α) : (part.getD (default, cs)).2 <:+ cs := by
  cases part with
  | none => exact List.suffix_rfl
  | some found => exact read found rfl

theorem reads_stringTail (opening : ℕ) (done cs : List Char) : Reads cs (stringTail opening done cs) := by
  fun_induction stringTail opening done cs with
  | case2 => exact List.suffix_cons _ _
  -- Two escapes of six characters that make a pair, one such escape, a short escape, and a plain character.
  | case6 =>
    rename_i ih
    exact ih.of_isSuffix ⟨[_, _, _, _, _, _, _, _, _, _, _, _], rfl⟩
  | case7 | case8 | case10 =>
    rename_i ih
    exact ih.of_isSuffix ⟨[_, _, _, _, _, _], rfl⟩
  | case13 =>
    rename_i ih
    exact ih.of_isSuffix ⟨[_, _], rfl⟩
  | case15 =>
    rename_i ih
    exact ih.of_isSuffix ⟨[_], rfl⟩
  | _ => exact Or.inl rfl

/-- A whole number is as long as its digits, and too long a one is a long run of them. -/
theorem reads_number (cs : List Char) : Reads cs (number cs) := by
  unfold number
  split
  rename_i negative body signed
  have unsigned : body <:+ cs := by
    split at signed <;> cases signed
    · exact List.suffix_cons _ _
    · exact List.suffix_rfl
  split
  rename_i digits rest parts
  have written : ∃ run, body = run ++ rest ∧ AllDigits run ∧ run.length = digits.length := by
    split at parts
    · cases parts
      exact ⟨['0'], rfl, AllDigits.toDigits 0, rfl⟩
    · have found := Decimal.exists_digitRun body
      rwa [show Decimal.digitRun Text.asciiDigit? body = (digits, rest) from parts] at found
  obtain ⟨run, whole, allDigits, count⟩ := written
  have left : rest <:+ cs := (List.IsSuffix.trans ⟨run, whole.symm⟩ unsigned)
  split
  · exact Or.inl rfl
  split
  rename_i fraction after fractions
  have later : after <:+ cs := by
    have read : ((fractionOf rest).getD ([], rest)).2 <:+ rest := isSuffix_getD (fun _ => isSuffix_fractionOf) []
    rw [fractions] at read
    exact read.trans left
  split
  · split
    · rename_i many
      refine Or.inr ⟨run, ?_, allDigits, by rwa [count]⟩
      exact List.IsInfix.trans ⟨[], rest, by rw [whole, List.nil_append]⟩ unsigned.isInfix
    · exact left
  · split
    rename_i exponent end' powers
    have read : ((exponentOf after).getD (0, after)).2 <:+ after := isSuffix_getD (fun _ => isSuffix_exponentOf) 0
    rw [powers] at read
    exact read.trans later

mutual

theorem reads_value : (fuel : ℕ) → (cs : List Char) → Reads cs (value fuel cs)
  | 0, cs => Or.inl rfl
  | fuel + 1, cs => by
    rw [value.eq_def]
    dsimp only
    split
    case h_1 rest =>
      have read := reads_stringTail ('"' :: rest).length [] rest
      cases made : stringTail ('"' :: rest).length [] rest <;> rw [made] at read <;>
        exact read.of_isSuffix (List.suffix_cons _ _)
    case h_2 rest =>
      have inner : skipSpace rest <:+ '{' :: rest := (isSuffix_skipSpace rest).trans (List.suffix_cons _ _)
      split
      · rename_i after same
        exact isSuffix_behind same inner
      · exact (reads_members fuel [] (skipSpace rest)).of_isSuffix inner
    case h_3 rest =>
      have inner : skipSpace rest <:+ '[' :: rest := (isSuffix_skipSpace rest).trans (List.suffix_cons _ _)
      split
      · rename_i after same
        exact isSuffix_behind same inner
      · exact (reads_items fuel [] (skipSpace rest)).of_isSuffix inner
    case h_10 => exact reads_number cs
    case h_4 | h_5 => exact ⟨[_, _, _, _], rfl⟩
    case h_6 => exact ⟨[_, _, _, _, _], rfl⟩
    case h_7 => exact ⟨[_, _, _], rfl⟩
    case h_8 => exact ⟨[_, _, _, _, _, _, _, _], rfl⟩
    case h_9 => exact ⟨[_, _, _, _, _, _, _, _, _], rfl⟩

theorem reads_items : (fuel : ℕ) → (done : List Value) → (cs : List Char) → Reads cs (items fuel done cs)
  | 0, _, cs => Or.inl rfl
  | fuel + 1, done, cs => by
    have first := reads_value fuel cs
    rw [items]
    cases read : value fuel cs with
    | error stop =>
      rw [read] at first
      exact first
    | ok found =>
      obtain ⟨item, rest⟩ := found
      rw [read] at first
      have behind : skipSpace rest <:+ cs := (isSuffix_skipSpace rest).trans first
      dsimp only
      split
      · rename_i after same
        exact isSuffix_behind same behind
      · rename_i after same
        have more : skipSpace after <:+ cs :=
          (isSuffix_skipSpace after).trans (isSuffix_behind same behind)
        exact (reads_items fuel (item :: done) (skipSpace after)).of_isSuffix more
      · exact Or.inl rfl

theorem reads_members : (fuel : ℕ) → (done : List (String × Value)) → (cs : List Char) →
    Reads cs (members fuel done cs)
  | 0, _, cs => Or.inl rfl
  | fuel + 1, done, cs => by
    rw [members.eq_def]
    dsimp only
    split
    · rename_i body
      have name := (reads_stringTail ('"' :: body).length [] body).of_isSuffix (List.suffix_cons '"' body)
      cases named : stringTail ('"' :: body).length [] body with
      | error stop =>
        rw [named] at name
        exact name
      | ok found =>
        obtain ⟨label, rest⟩ := found
        rw [named] at name
        have behind : skipSpace rest <:+ '"' :: body := (isSuffix_skipSpace rest).trans name
        dsimp only
        split
        · rename_i after same
          have given : skipSpace after <:+ '"' :: body :=
            (isSuffix_skipSpace after).trans (isSuffix_behind same behind)
          have first := (reads_value fuel (skipSpace after)).of_isSuffix given
          cases read : value fuel (skipSpace after) with
          | error stop =>
            rw [read] at first
            exact first
          | ok found =>
            obtain ⟨item, rest⟩ := found
            rw [read] at first
            have behind : skipSpace rest <:+ '"' :: body := (isSuffix_skipSpace rest).trans first
            dsimp only
            split
            · rename_i after same
              exact isSuffix_behind same behind
            · rename_i after same
              have more : skipSpace after <:+ '"' :: body :=
                (isSuffix_skipSpace after).trans (isSuffix_behind same behind)
              exact (reads_members fuel ((label, item) :: done) (skipSpace after)).of_isSuffix more
            · exact Or.inl rfl
        · exact Or.inl rfl
    · exact Or.inl rfl

end

end Json

end Workbench
