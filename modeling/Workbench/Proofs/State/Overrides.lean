import Workbench.Proofs.Files.Echo
import Workbench.Proofs.Files.Way
import Workbench.Proofs.State.Frame
import Workbench.Proofs.State.Metrics

namespace Workbench

/-- Steps over items in turn may be taken in any other order that keeps the order of the items under each key, if those
under different keys can be swapped. -/
theorem foldl_eq_of_filter_eq {α β κ : Type} [DecidableEq κ] {f : β → α → β} {key : α → κ}
    (swap : ∀ b one other, key one ≠ key other → f (f b one) other = f (f b other) one) {items others : List α}
    (same : ∀ k, items.filter (fun item => key item = k) = others.filter (fun item => key item = k)) (b : β) :
    items.foldl f b = others.foldl f b := by
  have advance (b : β) {first : α} {front : List α} (apart : ∀ item ∈ front, key item ≠ key first) :
      front.foldl f (f b first) = f (front.foldl f b) first := by
    induction front generalizing b with
    | nil => rfl
    | cons item front ih =>
      obtain ⟨here, later⟩ := List.forall_mem_cons.mp apart
      rw [List.foldl_cons, List.foldl_cons, swap b first item here.symm, ih (f b item) later]
  induction items generalizing others b with
  | nil =>
    have none : others = [] := by
      rw [List.eq_nil_iff_forall_not_mem]
      intro item member
      have kept : item ∈ others.filter fun other => key other = key item := by simpa using member
      rw [← same] at kept
      cases kept
    rw [none]
  | cons first rest ih =>
    -- The first item stands behind items under other keys, which it can pass.
    have ahead := (same (key first)).symm
    rw [List.filter_cons_of_pos (by simp), List.filter_eq_cons_iff] at ahead
    obtain ⟨front, back, rfl, apart, _, remaining⟩ := ahead
    have apart : ∀ item ∈ front, key item ≠ key first := by simpa using apart
    have left (k : κ) : rest.filter (fun item => key item = k) = (front ++ back).filter fun item => key item = k := by
      have whole := same k
      by_cases own : key first = k
      · subst own
        have skipped : front.filter (fun item => key item = key first) = [] := by simpa using apart
        rw [List.filter_append, skipped, List.nil_append, remaining]
      · simpa [own] using whole
    rw [List.foldl_cons, ih left, List.foldl_append, List.foldl_append, List.foldl_cons, advance b apart]

namespace Text

variable {blank : Char → Bool}

/-- The runs of a text without blanks: what stands between its blanks, but for what is empty. -/
def runsOf (cs : List Char) : List String :=
  ((cs.splitOnP isBlank).filter (· ≠ [])).map String.ofList

theorem wordsFrom_eq (blank : Char → Bool) (cs word : List Char) :
    wordsFrom blank cs word = ((cs.splitOnP blank).modifyHead (word.reverse ++ ·)).filter (· ≠ []) := by
  induction cs generalizing word with
  | nil => cases word <;> simp [wordsFrom]
  | cons c rest ih =>
    obtain ⟨first, later, whole⟩ := List.exists_cons_of_ne_nil (List.splitOnP_ne_nil blank rest)
    rw [wordsFrom, List.splitOnP_cons_eq_if_modifyHead]
    by_cases white : blank c = true
    · rw [if_pos white, if_pos white, ih]
      cases word <;> simp [whole]
    · rw [if_neg white, if_neg white, ih]
      simp [whole]

theorem words_eq_runsOf (cs : List Char) : words (String.ofList cs) = runsOf cs := by
  obtain ⟨first, later, whole⟩ := List.exists_cons_of_ne_nil (List.splitOnP_ne_nil isBlank cs)
  simp [words, runsOf, wordsFrom_eq, whole]

/-- Words are cut at blanks, so they hold none. -/
theorem solid_of_mem_wordsFrom {cs word piece : List Char} (solid : ∀ c ∈ word, blank c = false)
    (member : piece ∈ wordsFrom blank cs word) : ∀ c ∈ piece, blank c = false := by
  have finished : ∀ c ∈ word.reverse, blank c = false := fun c inside => solid c (List.mem_reverse.mp inside)
  induction cs generalizing word with
  | nil =>
    cases word with
    | nil => cases member
    | cons d word =>
      rw [List.mem_singleton.mp member]
      exact finished
  | cons c rest ih =>
    rw [wordsFrom] at member
    split_ifs at member with white empty
    · exact ih (by simp) member (by simp)
    · rcases List.mem_cons.mp member with rfl | member
      · exact finished
      · exact ih (by simp) member (by simp)
    · have longer : ∀ d ∈ c :: word, blank d = false := List.forall_mem_cons.mpr ⟨by simpa using white, solid⟩
      exact ih longer member fun d inside => longer d (List.mem_reverse.mp inside)

theorem solid_of_mem_words {s word : String} (member : word ∈ words s) : ∀ c ∈ word.toList, isBlank c = false := by
  obtain ⟨piece, cut, rfl⟩ := List.mem_map.mp member
  rw [String.toList_ofList]
  exact solid_of_mem_wordsFrom (by simp) cut

theorem strip_of_solid {s : String} (solid : ∀ c ∈ s.toList, isBlank c = false) : strip s = s := by
  rw [strip, trim_eq_self (fun c first => solid c (List.mem_of_mem_head? first))
    (fun c last => solid c (List.mem_of_mem_getLast? last)), String.ofList_toList]

/-- A text is in two pieces just when it has the mark once, between them. -/
theorem pieces_eq_pair_iff {mark : Char} {s front back : String} :
    pieces mark s = [front, back] ↔
      s.toList = front.toList ++ mark :: back.toList ∧ mark ∉ front.toList ∧ mark ∉ back.toList := by
  have listed : pieces mark s = [front, back] ↔ piecesOf mark s.toList = [front.toList, back.toList] := by
    constructor
    · intro cut
      have mapped := congrArg (List.map String.toList) cut
      simpa [pieces, Function.comp_def] using mapped
    · intro cut
      rw [pieces, cut]
      simp
  rw [listed]
  constructor
  · intro cut
    have free (piece : List Char) (member : piece ∈ [front.toList, back.toList]) : mark ∉ piece :=
      notMem_of_mem_piecesOf (cut ▸ member)
    refine ⟨?_, free _ (by simp), free _ (by simp)⟩
    have whole : [mark].intercalate (s.toList.splitOn mark) = s.toList := List.intercalate_splitOn mark
    rw [← piecesOf_eq_splitOn, cut] at whole
    simpa [List.intercalate] using whole.symm
  · rintro ⟨whole, first, second⟩
    have cut : ([mark].intercalate [front.toList, back.toList]).splitOn mark = [front.toList, back.toList] :=
      List.splitOn_intercalate mark (by simp [first, second]) (by simp)
    rw [piecesOf_eq_splitOn, whole]
    simpa [List.intercalate] using cut

end Text

namespace State

/-- What a text stands for under a key: where the key is that of a metric on a scale the number that it reads as, else
the text itself. -/
def StandsFor (definitions : List Definition) (key raw : String) (value : Value) : Prop :=
  (∃ metric x, Definition.find? definitions key = some (.metric metric) ∧ Decimal.read? raw = some x ∧
      x.isNaN = false ∧ value = .float x) ∨
    (∀ metric, Definition.find? definitions key ≠ some (.metric metric)) ∧ value = .text raw

/-- What a token puts under a key of a state: on either side of its only equals sign stand a key that the state has and
a text that stands for a value there. -/
def Overrides (definitions : List Definition) (state : State) (token key : String) (value : Value) : Prop :=
  ∃ raw, token = key ++ "=" ++ raw ∧ '=' ∉ key.toList ∧ '=' ∉ raw.toList ∧ key ∈ Fields.keys state ∧
    StandsFor definitions key raw value

/-- Whether a token names a key before its only equals sign. -/
def names (key token : String) : Bool :=
  match Text.pieces '=' token with
  | [own, _] => own = key
  | _ => false

/-- The tokens of a line: the runs without blanks in what stands behind the command word, if the line begins with it,
and else in the whole line. -/
def tokensOf (line : String) : List String :=
  Text.runsOf (if overrideCommand.toList <+: line.toList then line.toList.drop overrideCommand.toList.length
    else line.toList)

variable {definitions : List Definition} {state other : State} {token key raw : String} {value : Value}

theorem overrideTokens_eq (line : String) : overrideTokens line = tokensOf line := by
  unfold overrideTokens tokensOf
  cases cut : Text.dropLead? overrideCommand.toList line.toList with
  | none =>
    rw [if_neg (Text.dropLead?_eq_none_iff.mp cut), ← Text.words_eq_runsOf, String.ofList_toList]
  | some body =>
    have whole := Text.dropLead?_eq_some_iff.mp cut
    rw [if_pos ⟨body, whole.symm⟩, whole, List.drop_left]
    exact Text.words_eq_runsOf body

theorem solid_of_mem_overrideTokens {line : String} (member : token ∈ overrideTokens line) :
    ∀ c ∈ token.toList, Text.isBlank c = false := by
  unfold overrideTokens at member
  cases cut : Text.dropLead? overrideCommand.toList line.toList with
  | none =>
    rw [cut] at member
    exact Text.solid_of_mem_words member
  | some body =>
    rw [cut] at member
    exact Text.solid_of_mem_words member

theorem override?_eq_some_iff (solid : ∀ c ∈ token.toList, Text.isBlank c = false) :
    override? token = some (key, raw) ↔
      token = key ++ "=" ++ raw ∧ '=' ∉ key.toList ∧ '=' ∉ raw.toList := by
  have spelled : token = key ++ "=" ++ raw ↔ token.toList = key.toList ++ '=' :: raw.toList := by
    rw [← String.toList_inj]
    simp
  rw [spelled, ← Text.pieces_eq_pair_iff]
  constructor
  · intro written
    unfold override? at written
    split at written
    · rename_i front back cut
      obtain ⟨whole, _⟩ := Text.pieces_eq_pair_iff.mp cut
      rw [whole] at solid
      have first : Text.strip front = front := Text.strip_of_solid fun c inside => solid c (by simp [inside])
      have second : Text.strip back = back := Text.strip_of_solid fun c inside => solid c (by simp [inside])
      rw [first, second] at written
      cases written
      exact cut
    · cases written
  · intro cut
    obtain ⟨whole, _⟩ := Text.pieces_eq_pair_iff.mp cut
    rw [whole] at solid
    have first : Text.strip key = key := Text.strip_of_solid fun c inside => solid c (by simp [inside])
    have second : Text.strip raw = raw := Text.strip_of_solid fun c inside => solid c (by simp [inside])
    simp only [override?, cut, first, second]

theorem overrideValue?_eq_some_iff :
    overrideValue? definitions key raw = some value ↔ StandsFor definitions key raw value := by
  unfold overrideValue? StandsFor
  cases found : Definition.find? definitions key with
  | none => simp [eq_comm]
  | some definition =>
    cases definition with
    | metric metric =>
      constructor
      · intro taken
        obtain ⟨x, kept, same⟩ := Option.map_eq_some_iff.mp taken
        obtain ⟨read, fine⟩ := Option.filter_eq_some_iff.mp kept
        exact Or.inl ⟨metric, x, rfl, read, by simpa using fine, same.symm⟩
      · rintro (⟨_, x, _, read, fine, rfl⟩ | ⟨unscaled, _⟩)
        · exact Option.map_eq_some_iff.mpr ⟨x, Option.filter_eq_some_iff.mpr ⟨read, by simpa using fine⟩, rfl⟩
        · exact absurd rfl (unscaled metric)
    | qualitative words => simp [eq_comm]

theorem acceptable?_eq_some_iff (solid : ∀ c ∈ token.toList, Text.isBlank c = false) :
    acceptable? definitions state token = some (key, value) ↔ Overrides definitions state token key value := by
  simp only [acceptable?_eq_some, Overrides, override?_eq_some_iff solid, Fields.has_iff_mem_keys,
    overrideValue?_eq_some_iff, and_assoc]

/-- What a token overrides depends on the keys of the state alone. -/
theorem acceptable?_congr (same : Fields.keys state = Fields.keys other) (token : String) :
    acceptable? definitions state token = acceptable? definitions other token := by
  have known (key : String) : Fields.has state key = Fields.has other key := by
    rw [Bool.eq_iff_iff, Fields.has_iff_mem_keys, Fields.has_iff_mem_keys, same]
  simp only [acceptable?, known]

theorem applyOverride_eq (definitions : List Definition) (state : State) (count : ℕ) (token : String) :
    applyOverride definitions (state, count) token =
      ((acceptable? definitions state token).elim state fun entry => Fields.update state entry.1 entry.2,
        count + if (acceptable? definitions state token).isSome then 1 else 0) := by
  unfold applyOverride
  cases acceptable? definitions state token <;> rfl

/-- Tokens that name different keys may be applied in either order. -/
theorem applyOverride_swap {one two : String} (apart : (override? one).map Prod.fst ≠ (override? two).map Prod.fst)
    (acc : State × ℕ) :
    applyOverride definitions (applyOverride definitions acc one) two =
      applyOverride definitions (applyOverride definitions acc two) one := by
  obtain ⟨state, count⟩ := acc
  have unmoved (token : String) (entry : String × Value) :
      acceptable? definitions (Fields.update state entry.1 entry.2) token = acceptable? definitions state token :=
    acceptable?_congr (Fields.keys_update _ _ _) token
  cases first : acceptable? definitions state one with
  | none => cases second : acceptable? definitions state two <;> simp [applyOverride_eq, unmoved, first, second]
  | some entry =>
    cases second : acceptable? definitions state two with
    | none => simp [applyOverride_eq, unmoved, first, second]
    | some other =>
      obtain ⟨_, early, _⟩ := acceptable?_eq_some.mp first
      obtain ⟨_, late, _⟩ := acceptable?_eq_some.mp second
      have differs : entry.1 ≠ other.1 := by simpa [early, late] using apart
      simp [applyOverride_eq, unmoved, first, second, Fields.update_comm differs]

/-- A run over tokens counts those that override something, and under each key stays what the last of them puts
there. -/
theorem foldl_applyOverride (definitions : List Definition) (state : State) (tokens : List String) :
    Fields.keys (tokens.foldl (applyOverride definitions) (state, 0)).1 = Fields.keys state ∧
      (tokens.foldl (applyOverride definitions) (state, 0)).2 =
        tokens.countP (fun token => (acceptable? definitions state token).isSome) ∧
      ∀ key, Fields.get? (tokens.foldl (applyOverride definitions) (state, 0)).1 key =
        (Fields.get? (tokens.filterMap (acceptable? definitions state)).reverse key).or (Fields.get? state key) := by
  induction tokens using List.reverseRecOn with
  | nil => exact ⟨rfl, rfl, fun key => rfl⟩
  | append_singleton tokens token ih =>
    rw [List.foldl_append, List.foldl_cons, List.foldl_nil]
    generalize List.foldl (applyOverride definitions) (state, 0) tokens = reached at ih
    obtain ⟨current, count⟩ := reached
    obtain ⟨keys, counted, held⟩ := ih
    rw [applyOverride_eq, acceptable?_congr keys, List.countP_append, List.filterMap_append]
    cases accepted : acceptable? definitions state token with
    | none => simpa [accepted] using ⟨keys, counted, held⟩
    | some entry =>
      refine ⟨(Fields.keys_update _ _ _).trans keys, ?_, ?_⟩
      · simp only at counted
        simp [accepted, counted]
      · intro key
        obtain ⟨_, _, known, _⟩ := acceptable?_eq_some.mp accepted
        have present : Fields.has current entry.1 = true := by
          rwa [Fields.has_iff_mem_keys, keys, ← Fields.has_iff_mem_keys]
        have last : (tokens.filterMap (acceptable? definitions state) ++
            [token].filterMap (acceptable? definitions state)).reverse =
              entry :: (tokens.filterMap (acceptable? definitions state)).reverse := by simp [accepted]
        rw [last, Option.elim, Fields.update_eq_put present, Fields.get?_put, held, Fields.get?]
        split_ifs <;> rfl

theorem names_eq (solid : ∀ c ∈ token.toList, Text.isBlank c = false) (key : String) :
    names key token = decide ((override? token).map Prod.fst = some key) := by
  unfold names override?
  rcases cut : Text.pieces '=' token with _ | ⟨own, _ | ⟨raw, _ | ⟨more, rest⟩⟩⟩
  · rfl
  · rfl
  · obtain ⟨whole, _⟩ := Text.pieces_eq_pair_iff.mp cut
    have bare : Text.strip own = own := Text.strip_of_solid fun c inside => solid c (by simp [whole, inside])
    simp [bare]
  · rfl

/-- Tokens that name no key do nothing, and those that name different keys may stand in any order. -/
theorem foldl_applyOverride_eq {tokens others : List String}
    (same : ∀ key, tokens.filter (fun token => (override? token).map Prod.fst = some key) =
      others.filter (fun token => (override? token).map Prod.fst = some key)) (acc : State × ℕ) :
    tokens.foldl (applyOverride definitions) acc = others.foldl (applyOverride definitions) acc := by
  have idle : applyOverride definitions =
      fun acc token =>
        if ((override? token).map Prod.fst).isSome then applyOverride definitions acc token else acc := by
    funext acc token
    cases written : override? token with
    | none => simp [applyOverride, acceptable?, written]
    | some sides => rfl
  rw [idle, ← List.foldl_filter, ← List.foldl_filter]
  refine foldl_eq_of_filter_eq (fun acc one two apart => applyOverride_swap apart acc) ?_ acc
  intro named
  cases named with
  | none =>
    have nameless (list : List String) :
        (list.filter fun token => ((override? token).map Prod.fst).isSome).filter
          (fun token => (override? token).map Prod.fst = none) = [] := by
      rw [List.filter_filter, List.filter_eq_nil_iff]
      intro token _
      cases override? token <;> simp
    rw [nameless, nameless]
  | some key =>
    have kept (list : List String) :
        (list.filter fun token => ((override? token).map Prod.fst).isSome).filter
          (fun token => (override? token).map Prod.fst = some key) =
        list.filter fun token => (override? token).map Prod.fst = some key := by
      rw [List.filter_filter]
      refine List.filter_congr ?_
      intro token _
      cases override? token <;> simp
    rw [kept, kept, same]

theorem filter_names {line : String} (key : String) :
    (overrideTokens line).filter (names key) =
      (overrideTokens line).filter fun token => (override? token).map Prod.fst = some key :=
  List.filter_congr fun _ member => names_eq (solid_of_mem_overrideTokens member) key

/-- Overrides are exact: the keys stay as they are, the count is that of the tokens that put a value under a key, and
under each key stands the value of the last token that puts one there, else the old one. Nothing else about the tokens
matters than which of them name a key, in their order: tokens that name different keys may be exchanged. -/
theorem override_exact (definitions : List Definition) (state : State) (line : String) :
    (∃ entries : List (Option (String × Value)),
      List.Forall₂ (fun token entry => ∀ key value,
        entry = some (key, value) ↔ Overrides definitions state token key value) (tokensOf line) entries ∧
      Fields.keys (override definitions state line).1 = Fields.keys state ∧
      (override definitions state line).2 = entries.reduceOption.length ∧
      ∀ key, Fields.get? (override definitions state line).1 key =
        (Fields.get? entries.reduceOption.reverse key).or (Fields.get? state key)) ∧
    ∀ other, (∀ key, (tokensOf other).filter (names key) = (tokensOf line).filter (names key)) →
      override definitions state other = override definitions state line := by
  simp only [← overrideTokens_eq]
  refine ⟨⟨(overrideTokens line).map (acceptable? definitions state), ?_, ?_⟩, ?_⟩
  · refine List.forall₂_map_right_iff.mpr (List.forall₂_same.mpr fun token member => ?_)
    exact fun key value => acceptable?_eq_some_iff (solid_of_mem_overrideTokens member)
  · obtain ⟨keys, counted, held⟩ := foldl_applyOverride definitions state (overrideTokens line)
    have reduced : ((overrideTokens line).map (acceptable? definitions state)).reduceOption =
        (overrideTokens line).filterMap (acceptable? definitions state) := by
      rw [List.reduceOption, List.filterMap_map]
      rfl
    rw [reduced]
    exact ⟨keys, counted.trans List.length_filterMap_eq_countP.symm, held⟩
  · intro other same
    refine foldl_applyOverride_eq (fun key => ?_) (state, 0)
    rw [← filter_names, ← filter_names, same]

/-- A scale for each of two metrics, and a mode in words. -/
def stressed : List Definition := [
  .metric ⟨"dp", "", 0.0, (0.0, 1.0), "", none, none⟩, .metric ⟨"wp", "", 0.0, (0.0, 1.0), "", none, none⟩,
  .qualitative ⟨"mode", "", .text "CALM", ""⟩]

def calm : State :=
  [("dp", .float 1.0), ("mode", .text "CALM"), ("wp", .float 2.0)]

def stressLine : String := "system-stress-test dp=50 mode=ALERT ghost=1 wp=abc dp=7"

def stressLineTurned : String := "system-stress-test ghost=1 mode=ALERT dp=50 dp=7 wp=abc"

theorem filter_names_stressLine (key : String) :
    (tokensOf stressLineTurned).filter (names key) = (tokensOf stressLine).filter (names key) := by
  have tokens : tokensOf stressLine = ["dp=50", "mode=ALERT", "ghost=1", "wp=abc", "dp=7"] := by decide +kernel
  have turned : tokensOf stressLineTurned = ["ghost=1", "mode=ALERT", "dp=50", "dp=7", "wp=abc"] := by
    decide +kernel
  have sides : Text.pieces '=' "dp=50" = ["dp", "50"] ∧ Text.pieces '=' "mode=ALERT" = ["mode", "ALERT"] ∧
      Text.pieces '=' "ghost=1" = ["ghost", "1"] ∧ Text.pieces '=' "wp=abc" = ["wp", "abc"] ∧
      Text.pieces '=' "dp=7" = ["dp", "7"] := by decide +kernel
  obtain ⟨first, second, third, fourth, fifth⟩ := sides
  rw [tokens, turned]
  by_cases dp : "dp" = key
  · subst dp
    simp [names, first, second, third, fourth, fifth]
  · by_cases mode : "mode" = key
    · subst mode
      simp [names, first, second, third, fourth, fifth]
    · by_cases ghost : "ghost" = key
      · subst ghost
        simp [names, first, second, third, fourth, fifth]
      · simp [List.filter_cons, names, first, second, third, fourth, fifth, dp, mode, ghost]

theorem override_exact_stressed :
    (∃ entries : List (Option (String × Value)),
      List.Forall₂ (fun token entry => ∀ key value,
        entry = some (key, value) ↔ Overrides stressed calm token key value) (tokensOf stressLine) entries ∧
      Fields.keys (override stressed calm stressLine).1 = Fields.keys calm ∧
      (override stressed calm stressLine).2 = entries.reduceOption.length ∧
      ∀ key, Fields.get? (override stressed calm stressLine).1 key =
        (Fields.get? entries.reduceOption.reverse key).or (Fields.get? calm key)) ∧
    (∀ key, (tokensOf stressLineTurned).filter (names key) = (tokensOf stressLine).filter (names key)) ∧
    override stressed calm stressLineTurned = override stressed calm stressLine :=
  have exact := override_exact stressed calm stressLine
  ⟨exact.1, filter_names_stressLine, exact.2 stressLineTurned filter_names_stressLine⟩

/-- The later number stays, a key without a metric and a text that is no number are passed over. -/
example : override stressed calm stressLine =
    ([("dp", .float 7.0), ("mode", .text "ALERT"), ("wp", .float 2.0)], 3) := by
  decide +kernel

end State
end Workbench
