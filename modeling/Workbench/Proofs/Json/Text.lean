import Mathlib.Tactic
import Workbench.Json.Parser
import Workbench.Json.Printer

namespace Workbench.Json

theorem hexDigit?_digitChar {d : ℕ} (small : d < 16) : hexDigit? (Nat.digitChar d) = some d := by
  interval_cases d <;> rfl

/-- Four digits are enough for sixteen bits. -/
theorem hex_four {code : ℕ} (small : code < 0x10000) :
    Text.hex 4 code = [Nat.digitChar (code / 4096), Nat.digitChar (code / 256 % 16), Nat.digitChar (code / 16 % 16),
      Nat.digitChar (code % 16)] := by
  have one {n : ℕ} (few : n < 16) : Nat.toDigits 16 n = [Nat.digitChar n] := Nat.toDigits_of_lt_base few
  have more {n : ℕ} (many : 16 ≤ n) : Nat.toDigits 16 n = Nat.toDigits 16 (n / 16) ++ [Nat.digitChar (n % 16)] :=
    Nat.toDigits_of_base_le (by norm_num) many
  have zero : Nat.digitChar 0 = '0' := rfl
  unfold Text.hex
  dsimp only
  by_cases first : code < 16
  · have parts : code / 4096 = 0 ∧ code / 256 % 16 = 0 ∧ code / 16 % 16 = 0 ∧ code % 16 = code := by omega
    rw [one first, parts.1, parts.2.1, parts.2.2.1, parts.2.2.2, zero]
    rfl
  · by_cases second : code < 256
    · have parts : code / 4096 = 0 ∧ code / 256 % 16 = 0 ∧ code / 16 % 16 = code / 16 := by omega
      rw [more (by omega), one (by omega), parts.1, parts.2.1, parts.2.2, zero]
      rfl
    · by_cases third : code < 4096
      · have parts : code / 4096 = 0 ∧ code / 256 % 16 = code / 16 / 16 := by omega
        rw [more (by omega), more (by omega), one (by omega), parts.1, parts.2, zero]
        rfl
      · have parts : code / 4096 = code / 16 / 16 / 16 ∧ code / 256 % 16 = code / 16 / 16 % 16 := by omega
        rw [more (by omega), more (by omega), more (by omega), one (by omega), parts.1, parts.2]
        rfl

/-- A sixteen-bit unit in an escape is read as itself. -/
theorem exists_unitEscape {code : ℕ} (small : code < 0x10000) :
    ∃ a b c d, unitEscape code = ['\\', 'u', a, b, c, d] ∧ hexQuad? a b c d = some code := by
  refine ⟨_, _, _, _, by rw [unitEscape, hex_four small], ?_⟩
  simp only [hexQuad?, hexDigit?_digitChar (show code / 4096 < 16 by omega),
    hexDigit?_digitChar (show code / 256 % 16 < 16 by omega), hexDigit?_digitChar (show code / 16 % 16 < 16 by omega),
    hexDigit?_digitChar (show code % 16 < 16 by omega), Option.bind_eq_bind, Option.bind_some, Option.pure_def]
  congr 1
  omega

section Reading

variable (opening : ℕ) (done : List Char) {more : List Char}

theorem stringTail_plain {c : Char} (quote : c ≠ '"') (escape : c ≠ '\\') (shown : 0x20 ≤ c.toNat) :
    stringTail opening done (c :: more) = stringTail opening (c :: done) more := by
  rw [stringTail.eq_def]
  split <;> simp_all

theorem stringTail_short {c plain : Char} (unit : c ≠ 'u') (short : simpleEscape? c = some plain) :
    stringTail opening done ('\\' :: c :: more) = stringTail opening (plain :: done) more := by
  rw [stringTail.eq_def]
  split <;> grind

/-- What follows a unit on its own does not change how it is read. -/
theorem stringTail_unit {a b c d : Char} {code : ℕ} (quad : hexQuad? a b c d = some code)
    (single : isHighSurrogate code = false) (some : more ≠ []) :
    stringTail opening done ('\\' :: 'u' :: a :: b :: c :: d :: more) =
      stringTail opening (codeChar code :: done) more := by
  obtain ⟨next, rest, rfl⟩ := List.exists_cons_of_ne_nil some
  rw [stringTail.eq_def]
  split <;> grind

theorem stringTail_pair {a b c d e f g h : Char} {high low : ℕ} (first : hexQuad? a b c d = some high)
    (second : hexQuad? e f g h = some low) (isHigh : isHighSurrogate high = true) (isLow : isLowSurrogate low = true)
    (some : more ≠ []) :
    stringTail opening done ('\\' :: 'u' :: a :: b :: c :: d :: '\\' :: 'u' :: e :: f :: g :: h :: more) =
      stringTail opening (Char.ofNat (0x10000 + (high - 0xD800) * 0x400 + (low - 0xDC00)) :: done) more := by
  obtain ⟨next, rest, rfl⟩ := List.exists_cons_of_ne_nil some
  rw [stringTail.eq_def]
  simp [first, second, isHigh, isLow]

/-- Every character is read as itself, however it is written. -/
theorem stringTail_escapeChar (c : Char) (some : more ≠ []) :
    stringTail opening done (escapeChar c ++ more) = stringTail opening (c :: done) more := by
  have valid : c.toNat < 0xD800 ∨ 0xDFFF < c.toNat ∧ c.toNat < 0x110000 := c.valid
  unfold escapeChar
  split_ifs with quote escape line turn tab form back shown
  · rw [quote]
    exact stringTail_short opening done (by decide) rfl
  · rw [escape]
    exact stringTail_short opening done (by decide) rfl
  · rw [line]
    exact stringTail_short opening done (by decide) rfl
  · rw [turn]
    exact stringTail_short opening done (by decide) rfl
  · rw [tab]
    exact stringTail_short opening done (by decide) rfl
  · rw [form]
    exact stringTail_short opening done (by decide) rfl
  · rw [back]
    exact stringTail_short opening done (by decide) rfl
  · simp only [Bool.and_eq_true, decide_eq_true_eq] at shown
    exact stringTail_plain opening done quote escape shown.1
  · rename_i small
    obtain ⟨a, b, d, e, written, quad⟩ := exists_unitEscape small
    have single : isHighSurrogate c.toNat = false := by
      simp only [isHighSurrogate, Bool.and_eq_false_iff, decide_eq_false_iff_not]
      omega
    have same : codeChar c.toNat = c := by
      have whole : ¬ (0xD800 ≤ c.toNat ∧ c.toNat < 0xE000) := by omega
      simp only [codeChar, Bool.and_eq_true, decide_eq_true_eq, if_neg whole, Char.ofNat_toNat]
    rw [written]
    exact (stringTail_unit opening done quad single some).trans (by rw [same])
  · rename_i large
    have high : 0xD800 + (c.toNat - 0x10000) / 0x400 < 0x10000 := by omega
    have low : 0xDC00 + (c.toNat - 0x10000) % 0x400 < 0x10000 := by omega
    obtain ⟨a, b, d, e, front, first⟩ := exists_unitEscape high
    obtain ⟨f, g, h, i, back, second⟩ := exists_unitEscape low
    have isHigh : isHighSurrogate (0xD800 + (c.toNat - 0x10000) / 0x400) = true := by
      simp only [isHighSurrogate, Bool.and_eq_true, decide_eq_true_eq]
      omega
    have isLow : isLowSurrogate (0xDC00 + (c.toNat - 0x10000) % 0x400) = true := by
      simp only [isLowSurrogate, Bool.and_eq_true, decide_eq_true_eq]
      omega
    have same : 0x10000 + (0xD800 + (c.toNat - 0x10000) / 0x400 - 0xD800) * 0x400 +
        (0xDC00 + (c.toNat - 0x10000) % 0x400 - 0xDC00) = c.toNat := by omega
    dsimp only
    rw [front, back]
    exact (stringTail_pair opening done first second isHigh isLow some).trans (by rw [same, Char.ofNat_toNat])

theorem stringTail_escaped (cs rest : List Char) :
    stringTail opening done (cs.flatMap escapeChar ++ '"' :: rest) =
      .ok (String.ofList (done.reverse ++ cs), rest) := by
  induction cs generalizing done with
  | nil =>
    rw [List.append_nil]
    simp only [List.flatMap_nil, List.nil_append, stringTail]
  | cons c cs ih =>
    have some : cs.flatMap escapeChar ++ '"' :: rest ≠ [] := by simp
    rw [List.flatMap_cons, List.append_assoc, stringTail_escapeChar opening done c some, ih, List.reverse_cons,
      List.append_assoc, List.singleton_append]

end Reading

theorem toList_string (s : String) : (string s).toList = '"' :: (s.toList.flatMap escapeChar ++ ['"']) :=
  String.toList_ofList

/-- A text between quotes is read as itself. -/
theorem stringTail_string (opening : ℕ) (s : String) (rest : List Char) :
    stringTail opening [] (s.toList.flatMap escapeChar ++ ['"'] ++ rest) = .ok (s, rest) := by
  rw [List.append_assoc, List.singleton_append, stringTail_escaped, List.reverse_nil, List.nil_append,
    String.ofList_toList]

end Workbench.Json
