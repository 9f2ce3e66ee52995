import Workbench.Proofs.Command.Token

namespace Workbench.Token

/-- A part of a line whose quotes are all closed: a blank, a bare character, or what stands between two quotes of one
kind. -/
inductive Piece where
  | blank (c : Char) (white : Text.isBlank c = true)
  | bare (c : Char) (plain : isQuote c = false) (solid : Text.isBlank c = false)
  | quoted (quote : Char) (inside : List Char) (mark : isQuote quote = true) (free : quote ∉ inside)

namespace Piece

def isBlank : Piece → Bool
  | blank .. => true
  | bare .. | quoted .. => false

def isQuoted : Piece → Bool
  | quoted .. => true
  | blank .. | bare .. => false

/-- A piece as it is typed. -/
def spelled : Piece → List Char
  | blank c _ | bare c _ _ => [c]
  | quoted quote inside _ _ => quote :: (inside ++ [quote])

/-- A piece without the quotes around it. -/
def content : Piece → List Char
  | blank c _ | bare c _ _ => [c]
  | quoted _ inside _ _ => inside

end Piece

def spell (pieces : List Piece) : List Char :=
  pieces.flatMap Piece.spelled

/-- The bare characters and the insides of the quoted parts. -/
def contentOf (pieces : List Piece) : List Char :=
  pieces.flatMap Piece.content

/-- The maximal runs of pieces that are not blank. -/
def runs (pieces : List Piece) : List (List Piece) :=
  (pieces.splitOnP Piece.isBlank).filter fun run => !run.isEmpty

/-- Whether every quote of a line is closed, read from the left: within a quoted part only the quote that has opened it
counts. -/
def closes : Option Char → List Char → Bool
  | opened, [] => opened.isNone
  | none, c :: rest => closes (if isQuote c then some c else none) rest
  | some quote, c :: rest => closes (if c = quote then none else some quote) rest

/-- A line whose quotes are closed consists of pieces; one that begins within a quoted part does so after the rest of
that part. -/
theorem exists_spell {line : List Char} :
    (closes none line = true → ∃ pieces, spell pieces = line) ∧
      ∀ quote inside, isQuote quote = true → quote ∉ inside → closes (some quote) line = true →
        ∃ pieces, spell pieces = quote :: (inside ++ line) := by
  induction line with
  | nil =>
    refine ⟨fun _ => ⟨[], rfl⟩, fun quote inside _ _ closed => ?_⟩
    cases closed
  | cons c rest ih =>
    obtain ⟨outside, within⟩ := ih
    constructor
    · intro closed
      rw [closes] at closed
      by_cases mark : isQuote c = true
      · rw [if_pos mark] at closed
        exact within c [] mark List.not_mem_nil closed
      · rw [if_neg mark] at closed
        obtain ⟨pieces, spelled⟩ := outside closed
        by_cases white : Text.isBlank c = true
        · exact ⟨.blank c white :: pieces, congrArg (c :: ·) spelled⟩
        · exact ⟨.bare c (by simpa using mark) (by simpa using white) :: pieces, congrArg (c :: ·) spelled⟩
    · intro quote inside mark free closed
      rw [closes] at closed
      by_cases same : c = quote
      · subst same
        rw [if_pos rfl] at closed
        obtain ⟨pieces, spelled⟩ := outside closed
        refine ⟨.quoted c inside mark free :: pieces, ?_⟩
        rw [← spelled]
        simp [spell, Piece.spelled]
      · rw [if_neg same] at closed
        obtain ⟨pieces, spelled⟩ := within quote (inside ++ [c]) mark (by simp [free, Ne.symm same]) closed
        exact ⟨pieces, by simpa using spelled⟩

theorem runs_append_blank {blank : Piece} (white : blank.isBlank = true) (front back : List Piece) :
    runs (front ++ blank :: back) = runs front ++ runs back := by
  rw [runs, List.splitOnP_append_cons front back white, List.filter_append]
  rfl

theorem runs_of_solid {run : List Piece} (solid : ∀ piece ∈ run, piece.isBlank = false) :
    runs run = if run.isEmpty then [] else [run] := by
  rw [runs, List.splitOnP_eq_singleton solid]
  cases run <;> rfl

theorem spell_eq_nil_iff {pieces : List Piece} : spell pieces = [] ↔ pieces = [] := by
  constructor
  · intro empty
    cases pieces with
    | nil => rfl
    | cons first rest => cases first <;> cases empty
  · rintro rfl
    rfl

theorem flush_spell (run : List Piece) : flush (spell run).reverse = (if run.isEmpty then [] else [run]).map spell := by
  cases run with
  | nil => rfl
  | cons first rest =>
    have nonempty : spell (first :: rest) ≠ [] := fun same => List.cons_ne_nil _ _ (spell_eq_nil_iff.mp same)
    simp [flush, nonempty]

/-- A line of pieces is cut into its runs, whatever has been read of the first. -/
theorem scan_spell {front : List Piece} (solid : ∀ piece ∈ front, piece.isBlank = false) (pieces : List Piece) :
    scan none (spell front).reverse (spell pieces) = (runs (front ++ pieces)).map spell := by
  induction pieces generalizing front with
  | nil =>
    rw [List.append_nil, runs_of_solid solid]
    exact flush_spell front
  | cons first rest ih =>
    -- A piece that is not blank is read into the token under way.
    have next (still : first.isBlank = false) :
        scan none (first.spelled.reverse ++ (spell front).reverse) (spell rest) =
          (runs (front ++ first :: rest)).map spell := by
      have grown : first.spelled.reverse ++ (spell front).reverse = (spell (front ++ [first])).reverse := by simp [spell]
      rw [grown, ih (by simpa [still, or_imp, forall_and] using solid), List.append_assoc]
      rfl
    have spelled : spell (first :: rest) = first.spelled ++ spell rest := rfl
    rw [spelled]
    cases first with
    | blank c white =>
      have later : scan none [] (spell rest) = (runs rest).map spell := @ih [] (by simp)
      rw [runs_append_blank rfl, List.map_append, runs_of_solid solid, ← flush_spell, ← later, Piece.spelled,
        List.singleton_append, scan, if_neg (not_isQuote_of_isBlank white), if_pos white]
    | bare c plain inked =>
      rw [← next rfl, Piece.spelled, List.singleton_append, scan, if_neg (by simp [plain]), if_neg (by simp [inked])]
      rfl
    | quoted quote inside mark free =>
      rw [← next rfl, Piece.spelled, List.cons_append, List.append_assoc, List.singleton_append, scan_quoted mark free]

theorem dropOpening_of_plain {c : Char} (plain : isQuote c = false) (rest : List Char) :
    dropOpening (c :: rest) = c :: rest := by
  rw [dropOpening, if_neg (by simp [plain])]

theorem length_dropOpening (token : List Char) : token.length ≤ (dropOpening token).length + 1 := by
  cases token with
  | nil => exact Nat.zero_le _
  | cons c rest =>
    rw [dropOpening]
    split <;> simp

/-- A token loses two characters at most. -/
theorem length_unquote (token : List Char) : token.length ≤ (unquote token).length + 2 := by
  have front := length_dropOpening token
  have back := length_dropOpening (dropOpening token).reverse
  rw [List.length_reverse] at back
  rw [unquote, List.length_reverse]
  omega

/-- A token that begins with a bare character loses one at most, at its end. -/
theorem length_unquote_cons {c : Char} (plain : isQuote c = false) (rest : List Char) :
    (c :: rest).length ≤ (unquote (c :: rest)).length + 1 := by
  rw [unquote, dropOpening_of_plain plain, List.length_reverse]
  simpa using length_dropOpening (c :: rest).reverse

/-- A token that ends with a bare character loses one at most, at its beginning. -/
theorem length_unquote_concat {c : Char} (plain : isQuote c = false) (front : List Char) :
    (front ++ [c]).length ≤ (unquote (front ++ [c])).length + 1 := by
  have kept : unquote (front ++ [c]) = dropOpening (front ++ [c]) := by
    cases front with
    | nil => simp [unquote, dropOpening, plain]
    | cons first rest =>
      rw [unquote, List.cons_append, dropOpening]
      split <;> simp [dropOpening, plain]
  rw [kept]
  exact length_dropOpening _

theorem unquote_of_plain {token : List Char} (plain : ∀ c ∈ token, isQuote c = false) : unquote token = token := by
  have kept (given : List Char) (free : ∀ c ∈ given, isQuote c = false) : dropOpening given = given := by
    cases given with
    | nil => rfl
    | cons c rest => exact dropOpening_of_plain (free c List.mem_cons_self) rest
  rw [unquote, kept token plain, kept token.reverse (by simpa using plain), List.reverse_reverse]

/-- What is typed is two characters longer than its content for each quoted part. -/
theorem length_spell (run : List Piece) : (spell run).length = (contentOf run).length + 2 * run.countP Piece.isQuoted := by
  induction run with
  | nil => rfl
  | cons first rest ih =>
    have whole : (spell (first :: rest)).length = first.spelled.length + (spell rest).length := List.length_append
    have inner : (contentOf (first :: rest)).length = first.content.length + (contentOf rest).length :=
      List.length_append
    rw [whole, inner, ih, List.countP_cons]
    cases first <;> simp [Piece.spelled, Piece.content, Piece.isQuoted] <;> omega

theorem Piece.spelled_of_bare {piece : Piece} (bare : piece.isQuoted = false) :
    ∃ c, isQuote c = false ∧ piece.spelled = [c] ∧ piece.content = [c] := by
  cases piece with
  | blank c white => exact ⟨c, by simpa using not_isQuote_of_isBlank white, rfl, rfl⟩
  | bare c plain inked => exact ⟨c, plain, rfl, rfl⟩
  | quoted quote inside mark free => cases bare

theorem unquote_spell_of_bare {run : List Piece} (bare : ∀ piece ∈ run, piece.isQuoted = false) :
    unquote (spell run) = contentOf run := by
  have plain : ∀ c ∈ spell run, isQuote c = false := by
    intro c member
    obtain ⟨piece, held, spelled⟩ := List.mem_flatMap.mp member
    obtain ⟨d, plain, same, -⟩ := Piece.spelled_of_bare (bare piece held)
    rw [same, List.mem_singleton] at spelled
    exact spelled ▸ plain
  have same : spell run = contentOf run := by
    refine List.flatMap_congr fun piece held => ?_
    obtain ⟨c, -, spelled, content⟩ := Piece.spelled_of_bare (bare piece held)
    rw [spelled, content]
  rw [unquote_of_plain plain, same]

theorem unquote_spell_singleton (piece : Piece) : unquote (spell [piece]) = contentOf [piece] := by
  by_cases bare : piece.isQuoted = false
  · exact unquote_spell_of_bare (by simpa using bare)
  · cases piece with
    | quoted quote inside mark free => simpa [spell, contentOf, Piece.spelled, Piece.content] using unquote_quoted mark inside
    | _ => exact absurd rfl bare

/-- A run loses its quotes, all of them and nothing else, exactly when it has none or is one quoted part. -/
theorem unquote_spell_eq_iff (run : List Piece) : unquote (spell run) = contentOf run ↔
    (∀ piece ∈ run, piece.isQuoted = false) ∨ ∃ piece, run = [piece] := by
  constructor
  · intro same
    have lost := length_spell run
    rw [← same] at lost
    cases run with
    | nil => exact Or.inl (by simp)
    | cons first rest =>
      by_cases begins : first.isQuoted = false
      · obtain ⟨c, plain, spelled, -⟩ := Piece.spelled_of_bare begins
        have whole : spell (first :: rest) = c :: spell rest := congrArg (· ++ spell rest) spelled
        have kept := length_unquote_cons plain (spell rest)
        rw [whole] at lost
        have unquoted : (first :: rest).countP Piece.isQuoted = 0 := by omega
        exact Or.inl (by simpa using List.countP_eq_zero.mp unquoted)
      · rcases List.eq_nil_or_concat' rest with rfl | ⟨middle, last, rfl⟩
        · exact Or.inr ⟨first, rfl⟩
        · -- Behind a quoted part the closing quote stays, unless the last piece is quoted too: then two others stay.
          have counted : (first :: (middle ++ [last])).countP Piece.isQuoted =
              1 + middle.countP Piece.isQuoted + if last.isQuoted then 1 else 0 := by
            simp [List.countP_cons, begins]
            omega
          by_cases ends : last.isQuoted = false
          · obtain ⟨c, plain, spelled, -⟩ := Piece.spelled_of_bare ends
            have whole : spell (first :: (middle ++ [last])) = spell (first :: middle) ++ [c] := by simp [spell, spelled]
            have kept := length_unquote_concat plain (spell (first :: middle))
            rw [whole] at lost
            omega
          · have kept := length_unquote (spell (first :: (middle ++ [last])))
            rw [if_pos (by simpa using ends)] at counted
            omega
  · rintro (bare | ⟨piece, rfl⟩)
    · exact unquote_spell_of_bare bare
    · exact unquote_spell_singleton piece

/-- In a line whose quotes are all closed there is one token for each run of pieces, in their order, and a token is what
its run holds without quotes exactly when the run has no quoted part or consists of one. -/
theorem tokens_lose_quotes_iff {line : String} (closed : closes none line.toList = true) :
    (∃ pieces, spell pieces = line.toList) ∧ ∀ pieces, spell pieces = line.toList →
      List.Forall₂ (fun token run => token = String.ofList (contentOf run) ↔
        (∀ piece ∈ run, piece.isQuoted = false) ∨ ∃ piece, run = [piece]) (tokenize line) (runs pieces) := by
  refine ⟨exists_spell.1 closed, fun pieces spelled => ?_⟩
  have cut : tokenize line = (runs pieces).map fun run => String.ofList (unquote (spell run)) := by
    rw [tokenize_eq, ← spelled, show scan none [] (spell pieces) = _ from @scan_spell [] (by simp) pieces, List.map_map]
    rfl
  rw [cut, List.forall₂_map_left_iff, List.forall₂_same]
  intro run member
  rw [String.ofList_inj]
  exact unquote_spell_eq_iff run

/-- A bare word with a part in quotes behind it. -/
def assigned : List Piece :=
  [.bare 'a' rfl rfl, .bare '=' rfl rfl, .quoted '"' ['b', ' ', 'c'] rfl (by decide)]

theorem tokens_lose_quotes_iff_assigned :
    closes none "'it \"is\"' a=\"b c\"".toList = true ∧
      spell (.quoted '\'' "it \"is\"".toList rfl (by decide) :: .blank ' ' rfl :: assigned) =
        "'it \"is\"' a=\"b c\"".toList ∧
      List.Forall₂ (fun token run => token = String.ofList (contentOf run) ↔
          (∀ piece ∈ run, piece.isQuoted = false) ∨ ∃ piece, run = [piece]) ["it \"is\"", "a=\"b c"]
        [[.quoted '\'' "it \"is\"".toList rfl (by decide)], assigned] := by
  have closed : closes none "'it \"is\"' a=\"b c\"".toList = true := rfl
  have spelled : spell (.quoted '\'' "it \"is\"".toList rfl (by decide) :: .blank ' ' rfl :: assigned) =
      "'it \"is\"' a=\"b c\"".toList := rfl
  exact ⟨closed, spelled, (tokens_lose_quotes_iff closed).2 _ spelled⟩

/-- The quote that opens within a token stays, and only the one that closes at its end is lost. -/
theorem inner_quote_stays :
    closes none "a=\"b c\"".toList = true ∧ spell assigned = "a=\"b c\"".toList ∧ runs assigned = [assigned] ∧
      tokenize "a=\"b c\"" = ["a=\"b c"] ∧ String.ofList (contentOf assigned) = "a=b c" :=
  ⟨rfl, rfl, rfl, rfl, rfl⟩

end Workbench.Token
