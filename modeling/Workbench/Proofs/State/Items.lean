import Workbench.Proofs.State.Batch
import Workbench.Proofs.State.Effect

namespace Workbench

namespace StateChange

variable {item : String} {items : List Value}

theorem addItem_of_mem (known : .text item ∈ items) : addItem item items = items := by
  simp [addItem, known]

theorem addItem_of_notMem (fresh : .text item ∉ items) : addItem item items = items ++ [.text item] := by
  simp [addItem, fresh]

theorem mem_addItem (item : String) (items : List Value) : .text item ∈ addItem item items := by
  by_cases known : .text item ∈ items
  · rwa [addItem_of_mem known]
  · rw [addItem_of_notMem known]
    exact List.mem_concat_self

theorem addItem_addItem (item : String) (items : List Value) :
    addItem item (addItem item items) = addItem item items :=
  addItem_of_mem (mem_addItem item items)

theorem notMem_removeItem (item : String) (items : List Value) : .text item ∉ removeItem item items := by
  simp [removeItem]

theorem removeItem_of_notMem (absent : .text item ∉ items) : removeItem item items = items := by
  refine List.filter_eq_self.mpr ?_
  intro other member
  have differs : other ≠ .text item := by
    rintro rfl
    exact absent member
  simpa using differs

theorem removeItem_addItem (fresh : .text item ∉ items) : removeItem item (addItem item items) = items := by
  have alone : removeItem item [.text item] = [] := by simp [removeItem]
  have split : removeItem item (items ++ [.text item]) = removeItem item items ++ removeItem item [.text item] :=
    List.filter_append ..
  rw [addItem_of_notMem fresh, split, alone, List.append_nil, removeItem_of_notMem fresh]

theorem removeItem_sublist (item : String) (items : List Value) : (removeItem item items).Sublist items :=
  List.filter_sublist

theorem count_removeItem {other : Value} (differs : other ≠ .text item) (items : List Value) :
    (removeItem item items).count other = items.count other :=
  List.count_filter (by simpa using differs)

/-- What an operator on single items makes of a list of items. -/
def reworked : Operator → String → List Value → List Value
  | .add => addItem
  | .remove => removeItem
  | _ => fun _ items => items

variable {change : StateChange} {params : Fields Value} {current : Value}

/-- The operators that work on single items. -/
def Collects (change : StateChange) : Prop :=
  change.operator = .add ∨ change.operator = .remove

theorem worksOnText_of_collects (accepted : change.contradiction? = none) (collects : change.Collects)
    (current : Value) : change.worksOnText current = true := by
  have worded : change.operator.isWord = true := by
    rcases collects with adds | removes
    · rw [adds]
      rfl
    · rw [removes]
      rfl
  have suits := operator_of_accepted accepted current
  by_contra numeric
  rw [if_neg numeric, worded] at suits
  cases suits

theorem onText_of_collects (collects : change.Collects) (single : change.item params = .text item)
    (unnumbered : current.number? = none) :
    change.onText params current = some (.list (reworked change.operator item (itemsOf current))) := by
  unfold onText
  rcases collects with adds | removes
  · simp [adds, single, unnumbered, reworked]
  · simp [removes, single, unnumbered, reworked]

/-- An operator that replaces puts the operand in the place of any value. -/
theorem onText_of_replacing (replaces : change.operator = .set ∨ change.operator = .assign) (params : Fields Value)
    (current : Value) : change.onText params current = some (change.item params).toValue := by
  unfold onText
  rcases replaces with sets | assigns
  · rw [sets]
  · rw [assigns]

/-- A change by a single item applies where no number is, if it has a single item. -/
theorem isSome_onText_of_collects (collects : change.Collects) :
    (change.onText params current).isSome = true ↔
      current.number? = none ∧ ∃ item, change.item params = .text item := by
  unfold onText
  rcases collects with adds | removes
  · rw [adds]
    cases change.item params <;> cases current.number? <;> simp
  · rw [removes]
    cases change.item params <;> cases current.number? <;> simp

/-- On text and lists a change that does not contradict itself replaces or works on single items. -/
theorem replaces_or_collects (accepted : change.contradiction? = none) (worded : change.worksOnText current = true) :
    (change.operator = .set ∨ change.operator = .assign) ∨ change.Collects := by
  have stepless := operator_of_accepted accepted current
  rw [if_pos worded] at stepless
  unfold Collects
  cases operation : change.operator with
  | increase | decrease =>
    rw [operation] at stepless
    cases stepless
  | assign | set | add | remove => simp

/-- A change by a single item can be used where no number is. -/
theorem isUsable_iff_of_collects (accepted : change.contradiction? = none) (collects : change.Collects) :
    change.isUsable params current = true ↔
      current.number? = none ∧ ∃ item, change.item params = .text item := by
  unfold isUsable
  rw [if_pos (worksOnText_of_collects accepted collects current)]
  rcases collects with adds | removes
  · cases given : change.item params <;> simp [adds]
  · cases given : change.item params <;> simp [removes]

end StateChange

namespace State

open StateChange (itemsOf reworked)

variable {params : Fields Value} {state : State} {change : StateChange} {current : Value} {item : String}

/-- A change by a single item is skipped unless it is due and has a single text for its operand, and its metric holds
something else than a number. -/
theorem skip?_eq_none_iff_of_collects (accepted : change.contradiction? = none) (collects : change.Collects) :
    skip? params state change = none ↔ change.isDue params = true ∧
      ∃ current, Fields.get? state change.metric = some current ∧ current.number? = none ∧
        ∃ item, change.item params = .text item := by
  unfold skip?
  by_cases due : change.isDue params = true
  · cases found : Fields.get? state change.metric with
    | none => simp [due]
    | some current =>
      simp only [due, if_true, true_and, Option.some.injEq, exists_eq_left',
        ← StateChange.isUsable_iff_of_collects accepted collects]
      cases change.isUsable params current <;> simp
  · simp [due]

/-- A change by a single item that is not skipped reworks the items that its metric holds. -/
theorem apply_of_collects (accepted : change.contradiction? = none) (collects : change.Collects)
    (kept : skip? params state change = none) (held : Fields.get? state change.metric = some current)
    (single : change.item params = .text item) :
    apply params state change =
      .ok (Fields.update state change.metric (.list (reworked change.operator item (itemsOf current)))) := by
  obtain ⟨due, other, found, unnumbered, _⟩ := (skip?_eq_none_iff_of_collects accepted collects).mp kept
  cases held.symm.trans found
  have worded := StateChange.worksOnText_of_collects accepted collects current
  rw [apply_eq, held, StateChange.effect, if_pos due, Option.elim, StateChange.onValue, if_pos worded,
    StateChange.onText_of_collects collects single unnumbered]
  rfl

/-- Removing what a metric does not hold leaves its items as they are, and the state just when the removal is skipped
or the metric holds a list: a text becomes a list of one item. -/
theorem absent_removal_stays_iff (accepted : change.contradiction? = none) (removes : change.operator = .remove)
    (held : Fields.get? state change.metric = some current)
    (absent : ∀ item, change.item params = .text item → .text item ∉ itemsOf current) :
    (skip? params state change = none →
      applyAll params state [change] = .ok (Fields.update state change.metric (.list (itemsOf current)))) ∧
      (applyAll params state [change] = .ok state ↔
        (skip? params state change).isSome = true ∨ ∃ items, current = .list items) := by
  have collects : change.Collects := Or.inr removes
  have listed (kept : skip? params state change = none) :
      apply params state change = .ok (Fields.update state change.metric (.list (itemsOf current))) := by
    obtain ⟨-, -, -, -, item, single⟩ := (skip?_eq_none_iff_of_collects accepted collects).mp kept
    rw [apply_of_collects accepted collects kept held single, removes, reworked,
      StateChange.removeItem_of_notMem (absent item single)]
  rw [applyAll_singleton]
  refine ⟨listed, ?_⟩
  cases skipped : skip? params state change with
  | some reason =>
    have idle : (skip? params state change).isSome = true := by rw [skipped]; rfl
    exact iff_of_true (apply_of_skip idle) (Or.inl rfl)
  | none =>
    have known : (Fields.get? state change.metric).isSome = true := by rw [held]; rfl
    have unchanged : state = Fields.update state change.metric current := (Fields.update_held held).symm
    rw [listed skipped, Except.ok.injEq]
    nth_rewrite 2 [unchanged]
    rw [Fields.update_inj known]
    simp only [Option.isSome_none, Bool.false_eq_true, false_or]
    constructor
    · exact fun same => ⟨_, same.symm⟩
    · rintro ⟨items, rfl⟩
      rfl

/-- The removal of one item that is rendered, under a flag. -/
def ghostRemoved : StateChange :=
  ⟨"mode", .remove, none, some .qualitative, some "--purge", none, some "%%name%%"⟩

def purgedGhost : Fields Value :=
  [("name", .text "ghost"), ("purge", .bool true)]

theorem absent_removal_stays_iff_rendered :
    ghostRemoved.contradiction? = none ∧ ghostRemoved.operator = .remove ∧
      Fields.get? [("mode", Value.text "calm")] ghostRemoved.metric = some (.text "calm") ∧
      (∀ item, ghostRemoved.item purgedGhost = .text item → .text item ∉ itemsOf (.text "calm")) ∧
      (skip? purgedGhost [("mode", .text "calm")] ghostRemoved = none →
        applyAll purgedGhost [("mode", .text "calm")] [ghostRemoved] =
          .ok (Fields.update [("mode", .text "calm")] ghostRemoved.metric (.list (itemsOf (.text "calm"))))) ∧
      (applyAll purgedGhost [("mode", .text "calm")] [ghostRemoved] = .ok [("mode", .text "calm")] ↔
        (skip? purgedGhost [("mode", .text "calm")] ghostRemoved).isSome = true ∨
          ∃ items, Value.text "calm" = .list items) := by
  have rendered : ghostRemoved.item purgedGhost = .text "ghost" := by decide +kernel
  have absent : ∀ item, ghostRemoved.item purgedGhost = .text item → .text item ∉ itemsOf (.text "calm") := by
    intro item single
    cases rendered.symm.trans single
    decide
  exact ⟨rfl, rfl, rfl, absent, absent_removal_stays_iff rfl rfl rfl absent⟩

/-- Taking away an item that a text is not makes a list of the text. -/
theorem absent_removal_lists_text :
    Schema.change (.object [("metric", .text "mode"), ("operator", .text "remove"), ("value", .text "ghost")]) =
        .valid ⟨"mode", .remove, some (.text "ghost"), none, none, none, none⟩ ∧
      .text "ghost" ∉ itemsOf (.text "calm") ∧
      applyAll [] [("mode", .text "calm")] [⟨"mode", .remove, some (.text "ghost"), none, none, none, none⟩] =
        .ok [("mode", .list [.text "calm"])] := by
  refine ⟨rfl, by decide, by decide +kernel⟩

end State

end Workbench
