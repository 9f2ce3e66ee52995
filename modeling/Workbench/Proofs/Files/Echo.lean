import Workbench.Proofs.Files.Writing
import Workbench.Proofs.Text.Cut

namespace Workbench

namespace Text

variable {blank : Char → Bool} {cs : List Char}

theorem trim_eq_self (first : ∀ c ∈ cs.head?, blank c = false) (last : ∀ c ∈ cs.getLast?, blank c = false) :
    trim blank cs = cs := by
  have leading : cs.dropWhile blank = cs := by
    cases cs with
    | nil => rfl
    | cons c rest => exact List.dropWhile_cons_of_neg (by simpa using first c rfl)
  have trailing : cs.reverse.dropWhile blank = cs.reverse := by
    cases reversed : cs.reverse with
    | nil => rfl
    | cons c rest =>
      refine List.dropWhile_cons_of_neg ?_
      have ends : cs.getLast? = some c := by rw [← List.head?_reverse, reversed]; rfl
      simpa using last c ends
  rw [trim, leading, dropTrailing, trailing, List.reverse_reverse]

/-- Trimming loses blanks only. -/
theorem mem_trim {c : Char} (member : c ∈ cs) (solid : blank c = false) : c ∈ trim blank cs := by
  have stays {cs : List Char} (member : c ∈ cs) : c ∈ cs.dropWhile blank := by
    rw [← List.takeWhile_append_dropWhile (p := blank) (l := cs)] at member
    refine (List.mem_append.mp member).resolve_left fun leading => ?_
    exact absurd (List.mem_takeWhile_imp leading) (by simp [solid])
  rw [trim, dropTrailing, List.mem_reverse]
  exact stays (List.mem_reverse.mpr (stays member))

end Text

namespace Shell

/-- Whether a character has no meaning of its own in a line of the shell. -/
def IsPlain (c : Char) : Prop :=
  Text.isBlank c = false ∧ c ≠ '"' ∧ c ≠ '\'' ∧ c ≠ '\\'

/-- Whether a text is a word of a line as it stands. -/
def IsWord (s : String) : Prop :=
  s ≠ "" ∧ ∀ c ∈ s.toList, IsPlain c

theorem IsWord.toList_ne_nil {s : String} (word : IsWord s) : s.toList ≠ [] := by
  simpa using word.1

theorem isWord_echo : IsWord echoWord := by
  simp [IsWord, IsPlain, Text.isBlank, Text.isSpace, echoWord]

theorem isWord_cat : IsWord "cat" := by
  simp [IsWord, IsPlain, Text.isBlank, Text.isSpace]

variable {word path text : String} {cs rest : List Char}

theorem isSeparator_of_isPlain {c : Char} (plain : IsPlain c) : Words.isSeparator c = false := by
  by_contra separates
  have white : Text.isBlank c = true := by
    simp only [Words.isSeparator, Bool.not_eq_false, Bool.or_eq_true, beq_iff_eq] at separates
    rcases separates with ((rfl | rfl) | rfl) | rfl <;> decide
  exact Bool.false_ne_true (plain.1.symm.trans white)

theorem splitFrom_plain {c : Char} (plain : IsPlain c) (current : Words.Current) (rest : List Char) :
    Words.splitFrom .bare current (c :: rest) = Words.splitFrom .bare (Words.extend current c) rest := by
  have inside := isSeparator_of_isPlain plain
  obtain ⟨_, double, single, escape⟩ := plain
  simp [Words.splitFrom, inside, double, single, escape]

theorem splitFrom_word (filled : cs ≠ []) (plain : ∀ c ∈ cs, IsPlain c) (current : Words.Current)
    (rest : List Char) : Words.splitFrom .bare current (cs ++ rest) =
      Words.splitFrom .bare (some (cs.reverse ++ current.getD [])) rest := by
  induction cs generalizing current with
  | nil => exact absurd rfl filled
  | cons c cs ih =>
    obtain ⟨first, later⟩ := List.forall_mem_cons.mp plain
    rw [List.cons_append, splitFrom_plain first]
    by_cases ends : cs = []
    · subst ends
      rfl
    · rw [ih ends later, Words.extend, Option.getD_some, List.reverse_cons, List.append_assoc, List.singleton_append]

theorem wordsFrom_word (plain : ∀ c ∈ cs, IsPlain c) (rest word : List Char) :
    Text.wordsFrom Text.isBlank (cs ++ rest) word = Text.wordsFrom Text.isBlank rest (cs.reverse ++ word) := by
  induction cs generalizing word with
  | nil => rfl
  | cons c cs ih =>
    obtain ⟨first, later⟩ := List.forall_mem_cons.mp plain
    rw [List.cons_append, Text.wordsFrom, first.1, if_neg Bool.false_ne_true, ih later, List.reverse_cons,
      List.append_assoc, List.singleton_append]

theorem splitFrom_word_alone (filled : cs ≠ []) (plain : ∀ c ∈ cs, IsPlain c) :
    Words.splitFrom .bare none cs = .ok [cs] := by
  have split := splitFrom_word filled plain none []
  rw [List.append_nil] at split
  rw [split]
  simp [Words.splitFrom, Words.finish]

/-- A word before a blank is the first of the words of a line. -/
theorem splitFrom_word_blank (filled : cs ≠ []) (plain : ∀ c ∈ cs, IsPlain c) (rest : List Char) :
    Words.splitFrom .bare none (cs ++ ' ' :: rest) = (Words.splitFrom .bare none rest).map (cs :: ·) := by
  have read : Words.finish (some (cs.reverse ++ (none : Words.Current).getD [])) = [cs] := by simp [Words.finish]
  have separates : Words.isSeparator ' ' = true := rfl
  rw [splitFrom_word filled plain, Words.splitFrom, if_pos separates, read]
  rfl

theorem wordsOf_pair (first : IsWord word) (second : IsWord path) : wordsOf (word ++ " " ++ path) = [word, path] := by
  have line : (word ++ " " ++ path).toList = word.toList ++ ' ' :: path.toList := by simp
  rw [wordsOf, Words.split, line, splitFrom_word_blank first.toList_ne_nil first.2,
    splitFrom_word_alone second.toList_ne_nil second.2]
  simp [Except.map]

/-- The first word is read whether or not the quotes of the line are closed. -/
theorem head?_wordsOf (first : IsWord word) (rest : String) : (wordsOf (word ++ " " ++ rest)).head? = some word := by
  have line : (word ++ " " ++ rest).toList = word.toList ++ ' ' :: rest.toList := by simp
  rw [wordsOf, Words.split, line, splitFrom_word_blank first.toList_ne_nil first.2]
  cases Words.splitFrom .bare none rest.toList with
  | ok words => simp [Except.map]
  | error fault =>
    have blank : Text.isBlank ' ' = true := by decide
    have words : Text.words (word ++ " " ++ rest) =
        word :: (Text.wordsFrom Text.isBlank rest.toList []).map String.ofList := by
      rw [Text.words, line, wordsFrom_word first.2, Text.wordsFrom, blank]
      simp [first.1]
    exact congrArg List.head? words

/-- The line that writes a text in quotes to a path. -/
def echoLine (text path : String) : String :=
  "echo \"" ++ text ++ "\" > " ++ path

/-- Whether a text that a line writes to a path is there afterwards, if no array is in its way, and nothing else has
changed. -/
def ReadsBack (text path : String) : Prop :=
  ∀ (state : Fields Value) (store : Store), (∀ items, Fields.get? store path ≠ some (.array items)) →
    ∃ reply after, run state store (echoLine text path) = .ok (reply, after) ∧ reply.isError = false ∧
      (∀ other, other ≠ path → Fields.get? after other = Fields.get? store other) ∧
      run state after ("cat " ++ path) = .ok (done text, after)

theorem strip_append_word (target : IsWord path) {lead : String}
    (opens : ∀ c ∈ (lead ++ path).toList.head?, Text.isBlank c = false) : Text.strip (lead ++ path) = lead ++ path := by
  rw [Text.strip, Text.trim_eq_self opens, String.ofList_toList]
  intro c last
  rw [String.toList_append, List.getLast?_append_of_ne_nil _ target.toList_ne_nil] at last
  exact (target.2 c (List.mem_of_getLast? last)).1

theorem strip_word (target : IsWord path) : Text.strip path = path := by
  have stripped := @strip_append_word path target ""
  rw [String.empty_append] at stripped
  exact stripped fun c first => (target.2 c (List.mem_of_head? first)).1

theorem unwrap_quoted (text : String) : unwrap ("\"" ++ text ++ "\"") = text := by
  simp [unwrap]

/-- What stands between the word of the line and its redirection is the text. -/
theorem unwrap_strip_quoted (text : String) :
    unwrap (Text.strip (String.ofList (' ' :: '"' :: (text.toList ++ ['"'])))) = text := by
  have blank : Text.isBlank ' ' = true := by decide
  have mark : Text.isBlank '"' = false := by decide
  have ends : ('"' :: (text.toList ++ ['"'])).getLast? = some '"' := by
    rw [← List.cons_append, List.getLast?_concat]
  have trimmed : Text.trim Text.isBlank ('"' :: (text.toList ++ ['"'])) = '"' :: (text.toList ++ ['"']) :=
    Text.trim_eq_self (by simpa using mark) (by rw [ends]; simpa using mark)
  have stripped : Text.strip (String.ofList (' ' :: '"' :: (text.toList ++ ['"']))) = "\"" ++ text ++ "\"" := by
    rw [Text.strip, String.toList_ofList, Text.trim, List.dropWhile_cons_of_pos blank, ← Text.trim, trimmed]
    simp [← String.toList_inj]
  rw [stripped, unwrap_quoted]

/-- The redirection of the line is looked for in its text first. -/
theorem cutFirst_echoLine (text path : String) : Text.cutFirst " > ".toList (echoLine text path).toList =
    (Text.cutFirst " > ".toList (text.toList ++ '"' :: (" > ".toList ++ path.toList))).map fun parts =>
      ("echo ".toList ++ '"' :: parts.1, parts.2) := by
  have line : (echoLine text path).toList =
      "echo ".toList ++ '"' :: (text.toList ++ '"' :: (" > ".toList ++ path.toList)) := by
    simp [echoLine]
  rw [line, Text.cutFirst_skip (by decide) (by decide)]

theorem writing?_echoLine (target : IsWord path) {head tail : List Char}
    (cut : Text.cutFirst " > ".toList (echoLine text path).toList = some (head, tail))
    (named : Text.strip (String.ofList tail) ≠ "") : writing? (Text.strip (echoLine text path)) =
      some (Text.strip (String.ofList tail), unwrap (Text.strip (String.ofList (head.drop echoWord.length)))) := by
  have stripped : Text.strip (echoLine text path) = echoLine text path :=
    strip_append_word target (by simp [show Text.isBlank 'e' = false by decide])
  have spoken : echoLine text path ≠ "" := by simp [echoLine]
  have words : (wordsOf (echoLine text path)).head? = some echoWord := by
    have line : echoLine text path = echoWord ++ " " ++ ("\"" ++ text ++ "\" > " ++ path) := by
      simp [← String.toList_inj, echoLine, echoWord]
    rw [line]
    exact head?_wordsOf isWord_echo _
  rw [stripped, writing?, if_pos ⟨spoken, words⟩, cut]
  exact if_neg named

/-- Without a redirection in the text the line writes the text to the path. -/
theorem writing?_of_unmarked (target : IsWord path) (unmarked : ¬ " > ".toList <:+: text.toList) :
    writing? (Text.strip (echoLine text path)) = some (path, text) := by
  have cut : Text.cutFirst " > ".toList (echoLine text path).toList =
      some ("echo ".toList ++ '"' :: (text.toList ++ ['"']), path.toList) := by
    have next : Text.cutFirst " > ".toList (" > ".toList ++ path.toList) = some ([], path.toList) :=
      @Text.cutFirst_of_first _ [] _ (by decide) (by decide)
    rw [cutFirst_echoLine, Text.cutFirst_skip (by decide) unmarked, next, Option.map_some, Option.map_some]
  have named : Text.strip (String.ofList path.toList) = path := by
    rw [String.ofList_toList, strip_word target]
  have message := unwrap_strip_quoted text
  rw [writing?_echoLine target cut (by rw [named]; exact target.1), named]
  exact congrArg (fun read => some (path, read)) message

/-- With a redirection in its text the line writes something to another path. -/
theorem writing?_of_marked (target : IsWord path) (marked : " > ".toList <:+: text.toList) :
    ∃ elsewhere message, elsewhere ≠ path ∧
      writing? (Text.strip (echoLine text path)) = some (elsewhere, message) := by
  obtain ⟨⟨front, back⟩, inner⟩ := Option.isSome_iff_exists.mp (Text.isSome_cutFirst_iff.mpr marked)
  have cut : Text.cutFirst " > ".toList (echoLine text path).toList =
      some ("echo ".toList ++ '"' :: front, back ++ '"' :: (" > ".toList ++ path.toList)) := by
    rw [cutFirst_echoLine, Text.cutFirst_append inner, Option.map_some]
  have quoted : '"' ∈ (Text.strip (String.ofList (back ++ '"' :: (" > ".toList ++ path.toList)))).toList := by
    rw [Text.strip, String.toList_ofList, String.toList_ofList]
    exact Text.mem_trim (List.mem_append_right back List.mem_cons_self) (by decide)
  have named : Text.strip (String.ofList (back ++ '"' :: (" > ".toList ++ path.toList))) ≠ "" := by
    intro empty
    rw [empty] at quoted
    cases quoted
  refine ⟨_, _, fun same => ?_, writing?_echoLine target cut named⟩
  rw [same] at quoted
  exact (target.2 '"' quoted).2.1 rfl

theorem run_of_cat {line : String} (stripped : Text.strip line = line) (spoken : line ≠ "")
    (words : wordsOf line = ["cat", path]) (state : Fields Value) (store : Store) :
    run state store line = (cat store (some path)).map (·, store) := by
  simp only [run, stripped, if_neg spoken, words, List.head?_cons, List.tail_cons, Option.getD_some]

theorem run_cat (target : IsWord path) (state : Fields Value) (store : Store) :
    run state store ("cat " ++ path) = (cat store (some path)).map (·, store) := by
  have stripped : Text.strip ("cat " ++ path) = "cat " ++ path :=
    strip_append_word target (by simp [show Text.isBlank 'c' = false by decide])
  have words : wordsOf ("cat " ++ path) = ["cat", path] := by
    have line : "cat " ++ path = "cat" ++ " " ++ path := by simp
    rw [line, wordsOf_pair isWord_cat target]
  exact run_of_cat stripped (by simp) words state store

theorem cat_of_named (named : path ≠ "") (store : Store) :
    cat store (some path) = (Store.readText store path).map fun found =>
      found.elim (refused ("cat: " ++ path ++ ": No such file or directory")) done := by
  have given : (some path).filter (· ≠ "") = some path := Option.filter_some_pos (by simpa using named)
  simp only [cat, given]
  congr 1
  ext found
  cases found <;> rfl

/-- A text is read back from where it was written exactly if it holds no redirection of its own. -/
theorem readsBack_iff (target : IsWord path) (text : String) :
    ReadsBack text path ↔ Text.occurs " > " text = false := by
  rw [← Bool.not_eq_true, Text.occurs_iff]
  constructor
  · intro back marked
    -- In an empty store nothing is at the path after the line, since something was written to another one.
    obtain ⟨elsewhere, message, differs, writes⟩ := writing?_of_marked target marked
    obtain ⟨reply, _, ran⟩ := run_of_writing writes [] []
    obtain ⟨_, after, again, _, _, shown⟩ := back [] [] (by simp [Fields.get?])
    rw [ran] at again
    cases again
    have missing : Fields.get? (Fields.put [] elsewhere (written (Fields.get? [] elsewhere) message)) path = none := by
      rw [Fields.get?_put, if_neg differs]
      rfl
    rw [run_cat target, cat_of_named target.1, Store.readText, missing] at shown
    cases shown
  · intro unmarked state store free
    obtain ⟨reply, fine, ran⟩ := run_of_writing (writing?_of_unmarked target unmarked) state store
    have plain : written (Fields.get? store path) text = .text text := by
      cases held : Fields.get? store path with
      | none => rfl
      | some content =>
        cases content with
        | array items => exact absurd held (free items)
        | text | blob => rfl
    rw [plain] at ran
    refine ⟨reply, _, ran, fine, fun other differs => ?_, ?_⟩
    · rw [Fields.get?_put, if_neg differs.symm]
    · have held : Fields.get? (Fields.put store path (.text text)) path = some (.text text) := by
        rw [Fields.get?_put, if_pos rfl]
      rw [run_cat target, cat_of_named target.1, Store.readText, held]
      rfl

theorem isWord_p : IsWord "/p" := by
  simp [IsWord, IsPlain, Text.isBlank, Text.isSpace]

theorem readsBack_iff_answer : IsWord "/p" ∧ ReadsBack "say \"yes\" >\nor 'no'" "/p" :=
  ⟨isWord_p, (readsBack_iff isWord_p _).mpr (by decide +kernel)⟩

/-- The cut goes through the quotes: part of the text is written, to a path made of the rest of the line. -/
theorem quotes_are_cut :
    IsWord "/p" ∧
      run [] [] (echoLine "a > b" "/p") =
        .ok (done "→ Data written to b\" > /p", [("b\" > /p", .text "\"a")]) ∧
      run [] [("b\" > /p", .text "\"a")] ("cat " ++ "/p") =
        .ok (refused "cat: /p: No such file or directory", [("b\" > /p", .text "\"a")]) ∧
      ¬ ReadsBack "a > b" "/p" := by
  have wrote : run [] [] (echoLine "a > b" "/p") =
      .ok (done "→ Data written to b\" > /p", [("b\" > /p", .text "\"a")]) := by
    cbv
  have missed : run [] [("b\" > /p", .text "\"a")] ("cat " ++ "/p") =
      .ok (refused "cat: /p: No such file or directory", [("b\" > /p", .text "\"a")]) := by
    cbv
  refine ⟨isWord_p, wrote, missed, fun back => ?_⟩
  obtain ⟨_, after, ran, _, _, shown⟩ := back [] [] (by simp [Fields.get?])
  rw [wrote] at ran
  cases ran
  rw [missed] at shown
  have failed := congrArg Reply.isError (Prod.mk.inj (Except.ok.inj shown)).1
  cases failed

end Shell

end Workbench
