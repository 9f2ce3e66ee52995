import Mathlib
import Workbench.Text.Cut

namespace Workbench.Text

variable {lead mark front back cs rest : List Char}

/-- What a text begins with lies within its front or takes up all of the front. -/
theorem prefix_append_cases (begins : lead <+: front ++ back) :
    lead <+: front ∨ ∃ last, last <+: back ∧ lead = front ++ last := by
  rcases List.prefix_or_prefix_of_prefix begins (List.prefix_append front back) with short | ⟨last, rfl⟩
  · exact Or.inl short
  · exact Or.inr ⟨last, (List.prefix_append_right_inj front).mp begins, rfl⟩

/-- What a text begins with lies before a character that it does not hold. -/
theorem prefix_or_mem {c : Char} (begins : cs <+: front ++ c :: back) : cs <+: front ∨ c ∈ cs := by
  rcases prefix_append_cases begins with short | ⟨last, leads, rfl⟩
  · exact Or.inl short
  · cases last with
    | nil => exact Or.inl (by simp)
    | cons d last =>
      rw [(List.cons_prefix_cons.mp leads).1]
      exact Or.inr (List.mem_append_right front List.mem_cons_self)

theorem suffix_or_mem {c : Char} (ends : cs <:+ front ++ c :: back) : cs <:+ back ∨ c ∈ cs := by
  have begins : cs.reverse <+: back.reverse ++ c :: front.reverse := by simpa using List.reverse_prefix.mpr ends
  simpa using prefix_or_mem begins

theorem dropLead?_eq_some_iff : dropLead? lead cs = some rest ↔ cs = lead ++ rest := by
  induction lead generalizing cs with
  | nil => simp [dropLead?]
  | cons p ps ih =>
    cases cs with
    | nil => simp [dropLead?]
    | cons c cs =>
      by_cases same : p = c
      · simp [dropLead?, same, ih]
      · simp [dropLead?, same, Ne.symm same]

theorem isSome_dropLead?_iff : (dropLead? lead cs).isSome = true ↔ lead <+: cs := by
  simp only [Option.isSome_iff_exists, dropLead?_eq_some_iff, List.prefix_iff_exists_eq_append]

theorem dropLead?_eq_none_iff : dropLead? lead cs = none ↔ ¬ lead <+: cs := by
  rw [← isSome_dropLead?_iff, Bool.not_eq_true, Option.isSome_eq_false_iff, Option.isNone_iff_eq_none]

/-- What a text is cut into, with the mark between, is the text. -/
theorem eq_of_cutFirst (cut : cutFirst mark cs = some (front, back)) : cs = front ++ (mark ++ back) := by
  induction cs generalizing front with
  | nil =>
    rw [cutFirst] at cut
    split at cut
    · rename_i empty
      cases cut
      simpa using empty
    · cases cut
  | cons c rest ih =>
    rw [cutFirst] at cut
    cases found : dropLead? mark (c :: rest) with
    | some after =>
      rw [found] at cut
      cases cut
      rw [List.nil_append]
      exact dropLead?_eq_some_iff.mp found
    | none =>
      rw [found] at cut
      obtain ⟨⟨earlier, later⟩, inner, same⟩ := Option.map_eq_some_iff.mp cut
      cases same
      rw [ih inner, List.cons_append]

/-- A text is cut where a mark stands that does not begin any earlier. -/
theorem cutFirst_of_first (filled : mark ≠ []) (first : ¬ mark <:+: front ++ mark.dropLast) :
    cutFirst mark (front ++ (mark ++ back)) = some (front, back) := by
  induction front with
  | nil =>
    obtain ⟨c, later, rfl⟩ := List.exists_cons_of_ne_nil filled
    have found : dropLead? (c :: later) (c :: (later ++ back)) = some back := dropLead?_eq_some_iff.mpr rfl
    rw [List.nil_append, List.cons_append, cutFirst, found]
  | cons c rest ih =>
    have later : ¬ mark <:+: rest ++ mark.dropLast := fun within => first (List.infix_cons within)
    have missing : dropLead? mark (c :: (rest ++ (mark ++ back))) = none := by
      rw [dropLead?_eq_none_iff]
      intro leads
      -- A mark that begins here ends before the last character of the mark that is known.
      have ahead : c :: rest ++ mark.dropLast <+: c :: (rest ++ (mark ++ back)) := by
        rw [List.cons_append, List.cons_prefix_cons, List.prefix_append_right_inj]
        exact ⟨rfl, mark.dropLast_prefix.trans (List.prefix_append mark back)⟩
      have short : mark.length ≤ (c :: rest ++ mark.dropLast).length := by
        rw [List.length_append, List.length_cons, List.length_dropLast]
        omega
      exact first (List.prefix_of_prefix_length_le leads ahead short).isInfix
    rw [List.cons_append, cutFirst, missing, ih later]
    rfl

theorem dropLead?_of_unmarked {c : Char} (free : c ∉ mark) (unmarked : ¬ mark <:+: front) (back : List Char) :
    dropLead? mark (front ++ c :: back) = none := by
  rw [dropLead?_eq_none_iff]
  intro leads
  exact unmarked ((prefix_or_mem leads).resolve_right free).isInfix

/-- No cut is made before a character that the mark does not hold, if the mark does not occur before it. -/
theorem cutFirst_skip {c : Char} (free : c ∉ mark) (unmarked : ¬ mark <:+: front) (back : List Char) :
    cutFirst mark (front ++ c :: back) = (cutFirst mark back).map fun parts => (front ++ c :: parts.1, parts.2) := by
  have missing := dropLead?_of_unmarked free unmarked back
  induction front with
  | nil =>
    rw [List.nil_append] at missing ⊢
    rw [cutFirst, missing]
    rfl
  | cons d front ih =>
    have later : ¬ mark <:+: front := fun within => unmarked (List.infix_cons within)
    rw [List.cons_append] at missing ⊢
    rw [cutFirst, missing, ih later (dropLead?_of_unmarked free later back), Option.map_map]
    rfl

/-- What comes after the first mark is of no consequence for the cut. -/
theorem cutFirst_append (cut : cutFirst mark cs = some (front, back)) (more : List Char) :
    cutFirst mark (cs ++ more) = some (front, back ++ more) := by
  induction cs generalizing front with
  | nil =>
    have empty := eq_of_cutFirst cut
    obtain ⟨rfl, rfl, rfl⟩ : front = [] ∧ mark = [] ∧ back = [] := by simpa using empty.symm
    cases more <;> rfl
  | cons c rest ih =>
    rw [cutFirst] at cut
    cases found : dropLead? mark (c :: rest) with
    | some after =>
      rw [found] at cut
      cases cut
      have longer : dropLead? mark (c :: (rest ++ more)) = some (back ++ more) := by
        rw [dropLead?_eq_some_iff, ← List.cons_append, dropLead?_eq_some_iff.mp found, List.append_assoc]
      rw [List.cons_append, cutFirst, longer]
    | none =>
      rw [found] at cut
      obtain ⟨⟨early, late⟩, inner, same⟩ := Option.map_eq_some_iff.mp cut
      cases same
      have missing : dropLead? mark (c :: (rest ++ more)) = none := by
        rw [dropLead?_eq_none_iff] at found ⊢
        intro leads
        -- The mark that is known further on leaves no room for one here that ends behind the text.
        have short : mark.length ≤ (c :: rest).length := by
          rw [eq_of_cutFirst inner]
          simp only [List.length_cons, List.length_append]
          omega
        exact found (List.prefix_of_prefix_length_le leads (List.prefix_append (c :: rest) more) short)
      rw [List.cons_append, cutFirst, missing, ih inner]
      rfl

theorem isSome_cutFirst_iff : (cutFirst mark cs).isSome = true ↔ mark <:+: cs := by
  constructor
  · intro found
    obtain ⟨⟨front, back⟩, cut⟩ := Option.isSome_iff_exists.mp found
    exact ⟨front, back, by rw [eq_of_cutFirst cut, List.append_assoc]⟩
  · intro within
    induction cs with
    | nil => simp [cutFirst, List.infix_nil.mp within]
    | cons c rest ih =>
      rw [cutFirst]
      cases found : dropLead? mark (c :: rest) with
      | some after => rfl
      | none =>
        rcases List.infix_cons_iff.mp within with leads | within
        · exact absurd leads (dropLead?_eq_none_iff.mp found)
        · simpa using ih within

theorem cutFirst_eq_none_iff : cutFirst mark cs = none ↔ ¬ mark <:+: cs := by
  rw [← isSome_cutFirst_iff, Bool.not_eq_true, Option.isSome_eq_false_iff, Option.isNone_iff_eq_none]

theorem occurs_iff {mark s : String} : occurs mark s = true ↔ mark.toList <:+: s.toList :=
  isSome_cutFirst_iff

end Workbench.Text
