import Mathlib
import Workbench.Command.Token

namespace Workbench.Token

/-- Tokens as they may be typed: each between two quotes of a kind that it does not hold, and white space between
one token and the next. -/
inductive Typed : List String → List Char → Prop
  | last {token : String} {quote : Char} (mark : isQuote quote = true) (free : quote ∉ token.toList) :
      Typed [token] (quote :: (token.toList ++ [quote]))
  | cons {token : String} {tokens : List String} {quote blank : Char} {gap line : List Char}
      (mark : isQuote quote = true) (free : quote ∉ token.toList) (apart : ∀ c ∈ blank :: gap, Text.isBlank c = true)
      (typed : Typed tokens line) : Typed (token :: tokens) (quote :: (token.toList ++ quote :: blank :: (gap ++ line)))

theorem not_isBlank_of_isQuote {c : Char} (mark : isQuote c = true) : Text.isBlank c = false := by
  unfold isQuote at mark
  rcases (Bool.or_eq_true _ _).mp mark with same | same <;> cases eq_of_beq same <;> decide

theorem not_isQuote_of_isBlank {c : Char} (white : Text.isBlank c = true) : ¬ isQuote c = true :=
  fun mark => Bool.false_ne_true ((not_isBlank_of_isQuote mark).symm.trans white)

/-- Within quotes everything belongs to the token up to the same quote. -/
theorem scan_within {quote : Char} {token : List Char} (free : quote ∉ token) (current rest : List Char) :
    scan (some quote) current (token ++ quote :: rest) = scan none (quote :: (token.reverse ++ current)) rest := by
  induction token generalizing current with
  | nil => simp [scan]
  | cons c cs ih =>
    obtain ⟨other, later⟩ := List.ne_and_not_mem_of_not_mem_cons free
    rw [List.cons_append, scan, if_neg other.symm, ih later, List.reverse_cons, List.append_assoc]
    rfl

theorem scan_quoted {quote : Char} (mark : isQuote quote = true) {token : List Char} (free : quote ∉ token)
    (current rest : List Char) : scan none current (quote :: (token ++ quote :: rest)) =
      scan none ((quote :: (token ++ [quote])).reverse ++ current) rest := by
  have closed : (token ++ quote :: rest).contains quote = true := by simp
  rw [scan, if_pos mark, if_pos closed, scan_within free]
  simp

theorem scan_gap {gap : List Char} (blank : ∀ c ∈ gap, Text.isBlank c = true) (line : List Char) :
    scan none [] (gap ++ line) = scan none [] line := by
  induction gap with
  | nil => rfl
  | cons c cs ih =>
    obtain ⟨first, later⟩ := List.forall_mem_cons.mp blank
    rw [List.cons_append, scan, if_neg (not_isQuote_of_isBlank first), if_pos first, ih later]
    rfl

/-- White space at the end of a line belongs to no token, if an open quoted part ends before it. -/
theorem scan_append_gap {gap : List Char} (blank : ∀ c ∈ gap, Text.isBlank c = true) {line : List Char}
    {opened : Option Char} (closed : ∀ quote ∈ opened, quote ∈ line) (current : List Char) :
    scan opened current (line ++ gap) = scan opened current line := by
  induction line generalizing opened current with
  | nil =>
    cases opened with
    | some quote => exact absurd (closed quote rfl) List.not_mem_nil
    | none =>
      cases gap with
      | nil => rfl
      | cons c cs =>
        obtain ⟨white, later⟩ := List.forall_mem_cons.mp blank
        have empty : scan none [] cs = [] := by
          rw [← List.append_nil cs, scan_gap later]
          rfl
        have ended : scan none current [] = flush current := rfl
        rw [ended, List.nil_append, scan, if_neg (not_isQuote_of_isBlank white), if_pos white, empty, List.append_nil]
  | cons c rest ih =>
    have outside (read : List Char) : scan none read (rest ++ gap) = scan none read rest := ih (by simp) read
    cases opened with
    | none =>
      by_cases mark : isQuote c = true
      · have absent : c ∉ gap := fun member => not_isQuote_of_isBlank (blank c member) mark
        have same : (rest ++ gap).contains c = rest.contains c := by simp [absent]
        rw [List.cons_append, scan, scan, if_pos mark, if_pos mark, same, outside]
        by_cases later : rest.contains c = true
        · rw [if_pos later, if_pos later, ih (by simpa using later)]
        · rw [if_neg later, if_neg later]
      · rw [List.cons_append, scan, scan, if_neg mark, if_neg mark, outside, outside]
    | some quote =>
      rw [List.cons_append, scan, scan]
      refine ih (fun other same => ?_) (c :: current)
      by_cases ends : c = quote
      · simp [ends] at same
      · obtain rfl : quote = other := by simpa [ends] using same
        exact (List.mem_cons.mp (closed quote rfl)).resolve_left (Ne.symm ends)

/-- The white space at both ends of a line belongs to no token. -/
theorem scan_trim (line : List Char) : scan none [] (Text.trim Text.isBlank line) = scan none [] line := by
  have split (blank : Char → Bool) (cs : List Char) :
      Text.dropTrailing blank cs ++ (cs.reverse.takeWhile blank).reverse = cs := by
    rw [Text.dropTrailing, ← List.reverse_append, List.takeWhile_append_dropWhile, List.reverse_reverse]
  have trailing : ∀ c ∈ ((line.dropWhile Text.isBlank).reverse.takeWhile Text.isBlank).reverse, Text.isBlank c = true :=
    fun c member => List.mem_takeWhile_imp (List.mem_reverse.mp member)
  have leading : ∀ c ∈ line.takeWhile Text.isBlank, Text.isBlank c = true := fun c member => List.mem_takeWhile_imp member
  have none_open : ∀ quote ∈ (none : Option Char), quote ∈ Text.trim Text.isBlank line := by simp
  calc scan none [] (Text.trim Text.isBlank line)
      = scan none [] (line.dropWhile Text.isBlank) := by
        rw [← scan_append_gap trailing none_open, Text.trim, split]
    _ = scan none [] line := by
        rw [← scan_gap leading, List.takeWhile_append_dropWhile]

theorem tokenize_eq (line : String) :
    tokenize line = (scan none [] line.toList).map fun token => String.ofList (unquote token) := by
  rw [tokenize, scan_trim]

theorem unquote_quoted {quote : Char} (mark : isQuote quote = true) (token : List Char) :
    unquote (quote :: (token ++ [quote])) = token := by
  simp [unquote, dropOpening, mark]

theorem flush_quoted (quote : Char) (token : List Char) :
    flush (quote :: (token ++ [quote])).reverse = [quote :: (token ++ [quote])] := by
  simp [flush]

/-- What is typed in quotes is read as it is. -/
theorem map_unquote_scan {tokens : List String} {line : List Char} (typed : Typed tokens line) :
    (scan none [] line).map (fun token => String.ofList (unquote token)) = tokens := by
  induction typed with
  | @last token quote mark free =>
    rw [scan_quoted mark free, List.append_nil, scan, flush_quoted, List.map_singleton, unquote_quoted mark,
      String.ofList_toList]
  | @cons token tokens quote blank gap line mark free apart typed ih =>
    obtain ⟨first, later⟩ := List.forall_mem_cons.mp apart
    rw [scan_quoted mark free, List.append_nil, scan, if_neg (not_isQuote_of_isBlank first), if_pos first,
      scan_gap later, List.map_append, ih, flush_quoted, List.map_singleton, unquote_quoted mark, String.ofList_toList,
      List.singleton_append]

/-- A line of tokens in quotes is cut into these tokens. -/
theorem tokenize_typed {tokens : List String} {line : List Char} (typed : Typed tokens line) :
    tokenize (String.ofList line) = tokens := by
  rw [tokenize_eq, String.toList_ofList]
  exact map_unquote_scan typed

/-- Tokens can be typed if each of them lacks one of the quotes. -/
theorem exists_typed {tokens : List String} (some : tokens ≠ [])
    (quotable : ∀ token ∈ tokens, ∃ quote, isQuote quote = true ∧ quote ∉ token.toList) : ∃ line, Typed tokens line := by
  induction tokens with
  | nil => exact absurd rfl some
  | cons token rest ih =>
    obtain ⟨⟨quote, mark, free⟩, others⟩ := List.forall_mem_cons.mp quotable
    cases rest with
    | nil => exact ⟨_, .last mark free⟩
    | cons next later =>
      obtain ⟨line, typed⟩ := ih (List.cons_ne_nil next later) others
      have apart : ∀ c ∈ [' '], Text.isBlank c = true := List.forall_mem_singleton.mpr rfl
      exact ⟨_, .cons mark free apart typed⟩

end Workbench.Token
