import Workbench.Proofs.State.Items
import Workbench.Proofs.State.NaN

namespace Workbench

/-- Whether a sense in which values are the same takes nothing but a text for that text. -/
def Value.TellsTexts (same : Value → Value → Prop) : Prop :=
  ∀ value s, same value (.text s) → value = .text s

/-- Whether a value, if it is a list, holds no two items that are the same. -/
def Value.IsSet (same : Value → Value → Prop) : Value → Prop
  | .list items => items.Pairwise fun one other => ¬ same one other
  | _ => True

variable {same : Value → Value → Prop}

theorem Content.isSet_toValue (tells : Value.TellsTexts same) {content : Content}
    (once : ∀ items, content = .texts items → items.Nodup) : content.toValue.IsSet same := by
  cases content with
  | text s => trivial
  | texts items =>
    refine List.pairwise_map.mpr ((once items rfl).imp ?_)
    intro one other differs alike
    exact differs (Value.text.inj (tells _ _ alike))

namespace StateChange

variable {change : StateChange} {params : Fields Value} {current made : Value} {item : String} {items : List Value}

/-- Whether the literal list of a change, if it has one, holds no text twice. -/
def ListsOnce (change : StateChange) : Prop :=
  ∀ items, change.value = some (.texts items) → items.Nodup

theorem value_of_item {texts : List String} (listed : change.item params = .texts texts) :
    change.value = some (.texts texts) := by
  unfold item at listed
  split at listed
  · cases listed
  · split at listed
    · cases listed
      assumption
    · cases listed
    · cases listed

theorem ListsOnce.isSet_item (once : change.ListsOnce) (tells : Value.TellsTexts same) (params : Fields Value) :
    (change.item params).toValue.IsSet same :=
  Content.isSet_toValue tells fun _ listed => once _ (value_of_item listed)

theorem isSet_itemsOf (distinct : current.IsSet same) : (Value.list (itemsOf current)).IsSet same := by
  cases current with
  | list items => exact distinct
  | text content =>
    change (Value.list (if content = "" then [] else [.text content])).IsSet same
    by_cases empty : content = ""
    · rw [if_pos empty]
      exact List.Pairwise.nil
    · rw [if_neg empty]
      exact List.pairwise_singleton ..
  | _ => exact List.Pairwise.nil

theorem isSet_addItem (tells : Value.TellsTexts same) (distinct : (Value.list items).IsSet same) (item : String) :
    (Value.list (addItem item items)).IsSet same := by
  by_cases known : .text item ∈ items
  · rwa [addItem_of_mem known]
  · rw [addItem_of_notMem known]
    refine List.pairwise_append.mpr ⟨distinct, List.pairwise_singleton .., ?_⟩
    intro other member last final alike
    rw [List.mem_singleton.mp final] at alike
    exact known (tells _ _ alike ▸ member)

theorem isSet_removeItem (distinct : (Value.list items).IsSet same) (item : String) :
    (Value.list (removeItem item items)).IsSet same :=
  List.Pairwise.sublist (removeItem_sublist item items) distinct

/-- On text and lists a change makes sets of sets. -/
theorem isSet_onText (once : change.ListsOnce) (tells : Value.TellsTexts same) (distinct : current.IsSet same)
    (worked : change.onText params current = some made) : made.IsSet same := by
  have listed := isSet_itemsOf distinct
  unfold onText at worked
  split at worked
  · cases worked
    exact once.isSet_item tells params
  · cases worked
    exact once.isSet_item tells params
  · cases worked
  · split at worked
    · cases worked
    · split at worked <;> cases worked
      · exact isSet_addItem tells listed _
      · exact isSet_removeItem listed _
      · exact listed

theorem isSet_onNumber (worked : change.onNumber params current = .ok (some made)) : made.IsSet same := by
  obtain ⟨delta, _, worked⟩ := Except.bind_eq_ok.mp worked
  obtain ⟨base, _, worked⟩ := Except.bind_eq_ok.mp worked
  split at worked
  · cases worked
  · split at worked <;> cases worked <;> trivial

/-- A change makes sets of sets, and what it puts in the place of a value is one whatever that was. -/
theorem isSet_onValue (once : change.ListsOnce) (tells : Value.TellsTexts same)
    (distinct : current.IsSet same ∨ change.operator = .set ∨ change.operator = .assign)
    (worked : change.onValue params current = .ok (some made)) : made.IsSet same := by
  unfold onValue at worked
  by_cases worded : change.worksOnText current = true
  · rw [if_pos worded] at worked
    rcases distinct with distinct | replaces
    · exact isSet_onText once tells distinct (Except.ok.inj worked)
    · rw [onText_of_replacing replaces] at worked
      cases worked
      exact once.isSet_item tells params
  · rw [if_neg worded] at worked
    exact isSet_onNumber worked

end StateChange

namespace State

open StateChange (itemsOf addItem removeItem reworked)

variable {params : Fields Value} {state next : State} {metric : String}

/-- Whether the value of a metric, if it is a list, holds no two items that are the same. -/
def HoldsSet (same : Value → Value → Prop) (state : State) (metric : String) : Prop :=
  ∀ value, Fields.get? state metric = some value → value.IsSet same

theorem HoldsSet.apply (tells : Value.TellsTexts same) {change : StateChange} (once : change.ListsOnce)
    (applied : State.apply params state change = .ok next) (distinct : HoldsSet same state metric) :
    HoldsSet same next metric := by
  intro value found
  by_cases reaches : change.Reaches params metric
  · obtain ⟨rfl, due⟩ := reaches
    rcases apply_cases applied due with ⟨absent, rfl⟩ | ⟨current, result, held, worked, left⟩
    · exact distinct value found
    · cases found.symm.trans left
      cases result with
      | none => exact distinct current held
      | some made => exact StateChange.isSet_onValue once tells (Or.inl (distinct current held)) worked
  · rw [get?_of_unreached applied reaches] at found
    exact distinct value found

theorem HoldsSet.applyAll (tells : Value.TellsTexts same) {changes : List StateChange}
    (once : ∀ change ∈ changes, change.ListsOnce) (applied : State.applyAll params state changes = .ok next)
    (distinct : HoldsSet same state metric) : HoldsSet same next metric := by
  induction changes generalizing state with
  | nil =>
    cases applied
    exact distinct
  | cons change rest ih =>
    obtain ⟨own, others⟩ := List.forall_mem_cons.mp once
    rw [applyAll_cons] at applied
    obtain ⟨middle, first, later⟩ := Except.bind_eq_ok.mp applied
    exact ih others later (distinct.apply tells own first)

/-- What it means that a change adds its item to a list as to an ordered set. -/
structure AddsInOrder (params : Fields Value) (state : State) (change : StateChange) : Prop where
  /-- To add twice comes to the same as to add once. -/
  twice : applyAll params state [change, change] = applyAll params state [change]
  /-- On a list nothing is skipped that is due and has a single item. -/
  skips : ∀ items, Fields.get? state change.metric = some (.list items) →
    (skip? params state change = none ↔ change.isDue params = true ∧ ∃ item, change.item params = .text item)
  /-- A new item stands last, behind the others in their order. -/
  last : ∀ items item, Fields.get? state change.metric = some (.list items) → skip? params state change = none →
    change.item params = .text item → .text item ∉ items →
      applyAll params state [change] = .ok (Fields.update state change.metric (.list (items ++ [.text item])))
  /-- To take a new item away again gives back what was there. -/
  undone : ∀ items item, Fields.get? state change.metric = some (.list items) → skip? params state change = none →
    change.item params = .text item → .text item ∉ items →
      ∀ removal : StateChange, removal.contradiction? = none → removal.operator = .remove →
        removal.metric = change.metric → removal.isDue params = true → removal.item params = .text item →
          applyAll params state [change, removal] = .ok state

/-- What it means that a change takes its item away as from an ordered set: it is gone, and the others are all there
in their order. -/
def RemovesInOrder (params : Fields Value) (state : State) (change : StateChange) : Prop :=
  skip? params state change = none →
    ∃ current item left, Fields.get? state change.metric = some current ∧ change.item params = .text item ∧
      applyAll params state [change] = .ok (Fields.update state change.metric (.list left)) ∧
      .text item ∉ left ∧ left.Sublist (itemsOf current) ∧
      ∀ other, other ≠ .text item → left.count other = (itemsOf current).count other

variable {change : StateChange}

theorem skip?_eq_none_iff_of_list (accepted : change.contradiction? = none) (collects : change.Collects)
    {items : List Value} (held : Fields.get? state change.metric = some (.list items)) :
    skip? params state change = none ↔ change.isDue params = true ∧ ∃ item, change.item params = .text item := by
  rw [skip?_eq_none_iff_of_collects accepted collects, held]
  simp [Value.number?]

theorem applyAll_of_added (accepted : change.contradiction? = none) (adds : change.operator = .add)
    (kept : skip? params state change = none) {current : Value}
    (held : Fields.get? state change.metric = some current) {item : String}
    (single : change.item params = .text item) :
    applyAll params state [change] =
      .ok (Fields.update state change.metric (.list (addItem item (itemsOf current)))) := by
  rw [applyAll_singleton, apply_of_collects accepted (Or.inl adds) kept held single, adds, reworked]

theorem applyAll_of_removed (accepted : change.contradiction? = none) (removes : change.operator = .remove)
    (kept : skip? params state change = none) {current : Value}
    (held : Fields.get? state change.metric = some current) {item : String}
    (single : change.item params = .text item) :
    applyAll params state [change] =
      .ok (Fields.update state change.metric (.list (removeItem item (itemsOf current)))) := by
  rw [applyAll_singleton, apply_of_collects accepted (Or.inr removes) kept held single, removes, reworked]

theorem applyAll_add_twice (accepted : change.contradiction? = none) (adds : change.operator = .add) :
    applyAll params state [change, change] = applyAll params state [change] := by
  have whole : applyAll params state ([change] ++ [change]) =
      applyAll params state [change] >>= fun next => applyAll params next [change] := applyAll_append ..
  refine whole.trans ?_
  cases skipped : skip? params state change with
  | some reason =>
    have idle : applyAll params state [change] = .ok state := by
      rw [applyAll_singleton, apply_of_skip (by rw [skipped]; rfl)]
    rw [idle]
    exact idle
  | none =>
    obtain ⟨due, current, held, -, item, single⟩ :=
      (skip?_eq_none_iff_of_collects accepted (Or.inl adds)).mp skipped
    rw [applyAll_of_added accepted adds skipped held single]
    -- The second time the metric holds a list with the item, to which nothing is added.
    have again := Fields.get?_update_held held (.list (addItem item (itemsOf current)))
    have kept := (skip?_eq_none_iff_of_list accepted (Or.inl adds) again).mpr ⟨due, item, single⟩
    refine (applyAll_of_added accepted adds kept again single).trans ?_
    rw [itemsOf, StateChange.addItem_addItem, Fields.update_held again]

theorem applyAll_add_remove (accepted : change.contradiction? = none) (adds : change.operator = .add)
    {items : List Value} (held : Fields.get? state change.metric = some (.list items)) {item : String}
    (kept : skip? params state change = none) (single : change.item params = .text item)
    (fresh : .text item ∉ items) {removal : StateChange} (sound : removal.contradiction? = none)
    (removes : removal.operator = .remove) (named : removal.metric = change.metric)
    (due : removal.isDue params = true) (alike : removal.item params = .text item) :
    applyAll params state [change, removal] = .ok state := by
  have whole : applyAll params state ([change] ++ [removal]) =
      applyAll params state [change] >>= fun next => applyAll params next [removal] := applyAll_append ..
  refine whole.trans ?_
  rw [applyAll_of_added accepted adds kept held single]
  have after : Fields.get? (Fields.update state change.metric (.list (addItem item items))) removal.metric =
      some (.list (addItem item items)) := by
    rw [named]
    exact Fields.get?_update_held held _
  have heeded := (skip?_eq_none_iff_of_list sound (Or.inr removes) after).mpr ⟨due, item, alike⟩
  refine (applyAll_of_removed sound removes heeded after alike).trans ?_
  rw [itemsOf, StateChange.removeItem_addItem fresh, named, Fields.update_update, Fields.update_held held]

/-- The lists of a state are ordered sets. Without duplicates in the literal lists of a batch, a metric that at any
point of it holds no list with duplicates holds none at the end, and whatever is put in the place of a value is none;
an `add` adds and a `remove` removes as in an ordered set. -/
theorem lists_are_ordered_sets (params : Fields Value) (state : State) :
    (∀ same, Value.TellsTexts same → ∀ changes next, (∀ change ∈ changes, change.ListsOnce) →
      applyAll params state changes = .ok next →
        (∀ front back middle metric, changes = front ++ back → applyAll params state front = .ok middle →
          HoldsSet same middle metric → HoldsSet same next metric) ∧
        ∀ change ∈ changes, change.operator = .set ∨ change.operator = .assign → ∀ current made,
          change.onValue params current = .ok (some made) → made.IsSet same) ∧
      ∀ change : StateChange, change.contradiction? = none →
        (change.operator = .add → AddsInOrder params state change) ∧
          (change.operator = .remove → RemovesInOrder params state change) := by
  constructor
  · intro same tells changes next once applied
    refine ⟨?_, fun change member replaces current made worked =>
      StateChange.isSet_onValue (once change member) tells (Or.inr replaces) worked⟩
    rintro front back middle metric rfl first distinct
    rw [applyAll_append, first] at applied
    exact distinct.applyAll tells (fun change member => once change (List.mem_append_right _ member)) applied
  · intro change accepted
    refine ⟨fun adds => ?_, fun removes kept => ?_⟩
    · exact {
        twice := applyAll_add_twice accepted adds
        skips := fun items held => skip?_eq_none_iff_of_list accepted (Or.inl adds) held
        last := by
          intro items item held kept single fresh
          rw [applyAll_of_added accepted adds kept held single, itemsOf, StateChange.addItem_of_notMem fresh]
        undone := fun items item held kept single fresh removal sound removes named due alike =>
          applyAll_add_remove accepted adds held kept single fresh sound removes named due alike }
    · obtain ⟨-, current, held, -, item, single⟩ :=
        (skip?_eq_none_iff_of_collects accepted (Or.inr removes)).mp kept
      exact ⟨current, item, removeItem item (itemsOf current), held, single,
        applyAll_of_removed accepted removes kept held single, StateChange.notMem_removeItem item _,
        StateChange.removeItem_sublist item _, fun other differs => StateChange.count_removeItem differs _⟩

def taggedState : State :=
  [("tags", .list [.text "x"]), ("mode", .text "calm")]

def tagNamed : Fields Value :=
  [("name", .text "y")]

def nameAdded : StateChange :=
  ⟨"tags", .add, none, some .qualitative, none, none, some "%%name%%"⟩

def nameRemoved : StateChange :=
  ⟨"tags", .remove, none, some .qualitative, none, none, some "%%name%%"⟩

/-- Items put into a list and behind a text, and a list put in the place of a text. -/
def tagBatch : List StateChange :=
  [nameAdded, ⟨"mode", .add, some (.text "keen"), none, none, none, none⟩,
    ⟨"mode", .set, some (.texts ["a", "b"]), none, none, none, none⟩]

theorem lists_are_ordered_sets_tagged :
    Value.TellsTexts Eq ∧ (∀ change ∈ tagBatch, change.ListsOnce) ∧
      applyAll tagNamed taggedState tagBatch =
        .ok [("tags", .list [.text "x", .text "y"]), ("mode", .list [.text "a", .text "b"])] ∧
      HoldsSet Eq taggedState "tags" ∧
      HoldsSet Eq [("tags", .list [.text "x", .text "y"]), ("mode", .list [.text "a", .text "b"])] "tags" ∧
      nameAdded.contradiction? = none ∧ AddsInOrder tagNamed taggedState nameAdded ∧
      nameRemoved.contradiction? = none ∧ RemovesInOrder tagNamed taggedState nameRemoved ∧
      skip? tagNamed taggedState nameAdded = none ∧ skip? tagNamed taggedState nameRemoved = none := by
  have tells : Value.TellsTexts Eq := fun _ _ alike => alike
  have once : ∀ change ∈ tagBatch, change.ListsOnce := by
    intro change member items listed
    simp only [tagBatch, List.mem_cons, List.not_mem_nil, or_false] at member
    rcases member with rfl | rfl | rfl <;> cases listed
    decide
  have applied : applyAll tagNamed taggedState tagBatch =
      .ok [("tags", .list [.text "x", .text "y"]), ("mode", .list [.text "a", .text "b"])] := by decide +kernel
  have distinct : HoldsSet Eq taggedState "tags" := by
    intro value found
    cases found
    exact List.pairwise_singleton ..
  have laws := lists_are_ordered_sets tagNamed taggedState
  exact ⟨tells, once, applied, distinct,
    (laws.1 Eq tells tagBatch _ once applied).1 [] tagBatch taggedState "tags" rfl rfl distinct,
    rfl, (laws.2 nameAdded rfl).1 rfl, rfl, (laws.2 nameRemoved rfl).2 rfl,
    by decide +kernel, by decide +kernel⟩

def pairAdded : StateChange :=
  ⟨"tags", .add, some (.texts ["a", "b"]), none, none, none, none⟩

/-- A list is no single item: to add one is accepted, and skipped. -/
theorem list_is_not_added :
    Schema.change (.object
        [("metric", .text "tags"), ("operator", .text "add"), ("value", .list [.text "a", .text "b"])]) =
        .valid pairAdded ∧
      Fields.get? taggedState "tags" = some (.list [.text "x"]) ∧
      (pairAdded.item []).toValue ∉ [Value.text "x"] ∧
      applyAll [] taggedState [pairAdded] = .ok taggedState ∧
      taggedState ≠ Fields.update taggedState "tags" (.list ([.text "x"] ++ [(pairAdded.item []).toValue])) := by
  refine ⟨rfl, rfl, by decide, by decide +kernel, by decide⟩

end State

end Workbench
