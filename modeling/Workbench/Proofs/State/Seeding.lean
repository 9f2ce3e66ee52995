import Workbench.Catalog.Load
import Workbench.Proofs.Catalog.Coverage
import Workbench.Proofs.State.Interference
import Workbench.Proofs.State.Items
import Workbench.Proofs.State.Numbers

namespace Workbench

variable {definitions : List Definition} {catalog : Catalog} {metric : String}

namespace Catalog

open State (naming)

/-- What is noted of a metric is whether all changes that name it are qualitative, and nothing if none does. -/
theorem get?_noteReferences (seen : Fields Bool) (changes : List StateChange) (metric : String) :
    Fields.get? (changes.foldl noteReference seen) metric = if naming metric changes = [] then seen.get? metric
      else some ((seen.get? metric).getD true && (naming metric changes).all StateChange.isQualitative) := by
  induction changes generalizing seen with
  | nil => rfl
  | cons change rest ih =>
    rw [List.foldl_cons, ih, noteReference, Fields.get?_put]
    by_cases named : change.metric = metric
    · have first : naming metric (change :: rest) = change :: naming metric rest :=
        List.filter_cons_of_pos (by simpa using named)
      rw [first, if_pos named, named, if_neg (List.cons_ne_nil change (naming metric rest)), List.all_cons]
      by_cases last : naming metric rest = []
      · rw [if_pos last, last, List.all_nil, Bool.and_true]
      · rw [if_neg last, Option.getD_some, Bool.and_assoc]
    · have skipped : naming metric (change :: rest) = naming metric rest :=
        List.filter_cons_of_neg (by simpa using named)
      rw [skipped, if_neg named]

/-- A catalog counts a metric as qualitative while all its changes of the metric are. -/
theorem get?_referencedMetrics {change : StateChange} (member : change ∈ catalog.changes) :
    catalog.referencedMetrics.get? change.metric =
      some ((naming change.metric catalog.changes).all StateChange.isQualitative) := by
  have named : change ∈ naming change.metric catalog.changes := List.mem_filter.mpr ⟨member, by simp⟩
  rw [referencedMetrics, get?_noteReferences, if_neg (List.ne_nil_of_mem named)]
  rfl

end Catalog

namespace State

/-- A metric without a definition begins with the default for what the catalog counts it as. -/
theorem get?_initial_of_undefined (undefined : ∀ definition ∈ definitions, definition.id ≠ metric) :
    Fields.get? (initial definitions (some catalog)) metric = (catalog.referencedMetrics.get? metric).map seed := by
  have unknown : (Definition.find? definitions metric).isNone = true := by
    rw [Option.isNone_iff_eq_none]
    exact List.find?_eq_none.mpr (by simpa using undefined)
  have unnamed : metric ∉ Fields.keys (definitions.map fun definition => (definition.id, definition.initial)) := by
    simpa [Fields.keys] using undefined
  have undeclared : (Fields.ofPairs (definitions.map fun definition => (definition.id, definition.initial))).get?
      metric = none := Fields.get?_putAll_of_notMem unnamed
  rw [initial, Fields.get?_append, undeclared, Option.none_or, Fields.get?_mapValues, undefinedMetrics,
    Fields.get?_filter_keys fun key => (Definition.find? definitions key).isNone, if_pos unknown]

end State

/-- Whether a value is a text or a list that holds the text. -/
def Value.Carries (value : Value) (s : String) : Prop :=
  value = .text s ∨ ∃ items, value = .list items ∧ .text s ∈ items

theorem Value.not_carries_of_number {value : Value} (number : value.number?.isSome = true) {s : String} :
    ¬ value.Carries s := by
  rintro (rfl | ⟨items, rfl, _⟩)
  · cases number
  · cases number

namespace StateChange

variable {change : StateChange} {params : Fields Value} {current : Value} {s : String}

theorem worksOnText_of_isQualitative (qualitative : change.isQualitative = true) (current : Value) :
    change.worksOnText current = true := by
  unfold worksOnText
  by_cases settled : (change.type.isSome || change.operator ≠ .assign) = true
  · rwa [if_pos settled]
  · obtain ⟨untyped, assigns⟩ : change.type = none ∧ change.operator = .assign := by simpa using settled
    rw [isQualitative, untyped, assigns] at qualitative
    cases qualitative

/-- The operators by which a text gets into a metric. -/
def Brings (change : StateChange) : Prop :=
  change.operator = .set ∨ change.operator = .assign ∨ change.operator = .add

/-- Of the changes that bring a text, those that do not count as qualitative are assignments without a type. -/
theorem isQualitative_eq_false_iff (brings : change.Brings) (notNumerical : change.type ≠ some .numerical) :
    change.isQualitative = false ↔ change.type = none ∧ change.operator = .assign := by
  unfold isQualitative
  cases declared : change.type with
  | none => rcases brings with sets | assigns | adds <;> simp [*, Operator.isWord]
  | some type =>
    cases type with
    | qualitative => simp
    | numerical => exact absurd declared notNumerical

/-- A change that counts as qualitative brings its text to a list, and to a number unless it adds. -/
theorem carries_onText_seed (brings : change.Brings) (single : change.item params = .text s) (qualitative : Bool) :
    ((change.onText params (State.seed qualitative)).getD (State.seed qualitative)).Carries s ↔
      (change.operator = .add → qualitative = true) := by
  rcases brings with sets | assigns | adds
  · rw [onText_of_replacing (Or.inl sets), single]
    exact iff_of_true (Or.inl rfl) (by simp [sets])
  · rw [onText_of_replacing (Or.inr assigns), single]
    exact iff_of_true (Or.inl rfl) (by simp [assigns])
  · cases qualitative with
    | true =>
      have listed : change.onText params (State.seed true) = some (.list (addItem s [])) := by
        rw [onText_of_collects (Or.inl adds) single rfl, adds]
        rfl
      rw [listed]
      exact iff_of_true (Or.inr ⟨_, rfl, mem_addItem s []⟩) fun _ => rfl
    | false =>
      have skipped : change.onText params (State.seed false) = none := by
        simp [onText, adds, single, State.seed, Value.number?]
      rw [skipped]
      exact iff_of_false (Value.not_carries_of_number rfl) fun always => Bool.false_ne_true (always adds)

end StateChange

namespace State

open StateChange

/-- Whether a change, applied alone, brings a text to its metric. -/
def TakesEffect (params : Fields Value) (state : State) (change : StateChange) (s : String) : Prop :=
  ∃ next, applyAll params state [change] = .ok next ∧
    ∃ value, Fields.get? next change.metric = some value ∧ value.Carries s

variable {params : Fields Value} {state : State} {change : StateChange} {current : Value} {s : String}

theorem takesEffect_iff (due : change.isDue params = true) (held : Fields.get? state change.metric = some current) :
    TakesEffect params state change s ↔
      ∃ made, change.onValue params current = .ok made ∧ (made.getD current).Carries s := by
  have found (made : Option Value) :
      Fields.get? (place state change.metric made) change.metric = some (made.getD current) := by
    rw [get?_place, if_pos rfl, held]
    rfl
  rw [TakesEffect, applyAll_singleton, apply_eq, held, effect, if_pos due, Option.elim]
  cases change.onValue params current with
  | error fault => simp [Except.map]
  | ok made => simp [Except.map, found]

/-- Applied alone to a fresh state, a change that brings a text to a metric without a definition takes effect just when
it counts as qualitative and, if it adds, all changes of its metric in the catalog do. So `set` and a declared
assignment always take effect, an assignment without a type never does, and an addition does not beside one. -/
theorem takesEffect_initial_iff (undefined : ∀ definition ∈ definitions, definition.id ≠ change.metric)
    (member : change ∈ catalog.changes) (notNumerical : change.type ≠ some .numerical) (brings : change.Brings)
    (due : change.isDue params = true) (single : change.item params = .text s) :
    TakesEffect params (initial definitions (some catalog)) change s ↔
      ¬ (change.type = none ∧ change.operator = .assign) ∧
        (change.operator = .add → ∀ other ∈ catalog.changes, other.metric = change.metric →
          other.isQualitative = true) := by
  have held : Fields.get? (initial definitions (some catalog)) change.metric =
      some (seed ((naming change.metric catalog.changes).all isQualitative)) := by
    rw [get?_initial_of_undefined undefined, Catalog.get?_referencedMetrics member]
    rfl
  have throughout : (naming change.metric catalog.changes).all isQualitative = true ↔
      ∀ other ∈ catalog.changes, other.metric = change.metric → other.isQualitative = true := by
    simp only [naming, List.all_eq_true, List.mem_filter, decide_eq_true_eq, and_imp]
  rw [takesEffect_iff due held, ← isQualitative_eq_false_iff brings notNumerical, Bool.not_eq_false, ← throughout]
  by_cases qualitative : change.isQualitative = true
  · simp only [onValue, worksOnText_of_isQualitative qualitative, if_true, Except.ok.injEq, exists_eq_left',
      carries_onText_seed brings single, qualitative, true_and]
  · have lone : (naming change.metric catalog.changes).all isQualitative = false := by
      rw [← Bool.not_eq_true, throughout]
      exact fun always => qualitative (always change member rfl)
    obtain ⟨untyped, assigns⟩ := (isQualitative_eq_false_iff brings notNumerical).mp (by simpa using qualitative)
    have numeric : change.worksOnText (.float 0.0) = false := by
      simp [worksOnText, untyped, assigns]
    rw [lone]
    refine iff_of_false ?_ fun both => qualitative both.1
    rintro ⟨made, worked, carries⟩
    rw [onValue, seed, if_neg Bool.false_ne_true, if_neg (by simp [numeric])] at worked
    exact Value.not_carries_of_number (onNumber_number worked rfl) carries

/-- An addition of what is rendered, under a flag. -/
def watchAdded : StateChange :=
  ⟨"watch", .add, none, none, some "--night", none, some "%%name%% watch"⟩

/-- A catalog that also assigns to the metric, with its type declared, and steps another. -/
def watchCatalog : Catalog :=
  ⟨1, [("guard", [⟨"post", "", none, none, some "post", [], some { changes := [watchAdded, stepOn "heat" none] }, ""⟩]),
    ("relief", [⟨"relieve", "", none, none, some "relieve", [],
      some { changes := [⟨"watch", .assign, some (.text "off"), some .qualitative, none, none, none⟩] }, ""⟩])]⟩

def moodDefinition : Definition :=
  .qualitative ⟨"mood", "", .text "calm", ""⟩

def nightPost : Fields Value :=
  [("name", .text "late"), ("night", .bool true)]

theorem takesEffect_initial_iff_watch :
    watchAdded ∈ watchCatalog.changes ∧ watchAdded.item nightPost = .text "late watch" ∧
      (TakesEffect nightPost (initial [moodDefinition] (some watchCatalog)) watchAdded "late watch" ↔
        ¬ (watchAdded.type = none ∧ watchAdded.operator = .assign) ∧
          (watchAdded.operator = .add → ∀ other ∈ watchCatalog.changes, other.metric = watchAdded.metric →
            other.isQualitative = true)) ∧
      TakesEffect nightPost (initial [moodDefinition] (some watchCatalog)) watchAdded "late watch" := by
  have member : watchAdded ∈ watchCatalog.changes := by decide +kernel
  have single : watchAdded.item nightPost = .text "late watch" := by decide +kernel
  have effective : TakesEffect nightPost (initial [moodDefinition] (some watchCatalog)) watchAdded "late watch" ↔ _ :=
    takesEffect_initial_iff (by decide) member (by decide) (Or.inr (Or.inr rfl)) (by decide +kernel) single
  exact ⟨member, single, effective, effective.mpr ⟨by decide, by decide +kernel⟩⟩

/-- A catalog whose one command assigns a word, without a type, and adds another. -/
def tuneDocument : Value :=
  .object [("s", .object [("utilities", .list [.object [("name", .text "tune"), ("syntax", .text "tune"),
    ("conceptual_impact", .object [("state_changes", .list [
      .object [("metric", .text "mode"), ("operator", .text "="), ("value", .text "SAFE")],
      .object [("metric", .text "mode"), ("operator", .text "add"), ("value", .text "quiet")]])])]])])]

def modeAssigned : StateChange :=
  ⟨"mode", .assign, some (.text "SAFE"), none, none, none, none⟩

def modeAdded : StateChange :=
  ⟨"mode", .add, some (.text "quiet"), none, none, none, none⟩

def tuneCatalog : Catalog :=
  ⟨1, [("s", [⟨"tune", "", none, none, some "tune", [], some { changes := [modeAssigned, modeAdded] }, ""⟩])]⟩

/-- The word that is no number finds a number, and so does the other: neither change does anything. -/
theorem words_find_number :
    Catalog.load tuneDocument = .ok tuneCatalog ∧ tuneCatalog.changes = [modeAssigned, modeAdded] ∧
      Decimal.read? "SAFE" = none ∧ initial [] (some tuneCatalog) = [("mode", .float 0.0)] ∧
      applyAll [] [("mode", .float 0.0)] [modeAssigned] = .ok [("mode", .float 0.0)] ∧
      applyAll [] [("mode", .float 0.0)] [modeAdded] = .ok [("mode", .float 0.0)] := by
  refine ⟨rfl, rfl, by decide +kernel, by decide +kernel, ?_, ?_⟩
  · decide +kernel
  · decide +kernel

end State

end Workbench
