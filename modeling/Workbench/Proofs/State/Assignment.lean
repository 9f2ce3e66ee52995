import Workbench.Catalog.Load
import Workbench.Proofs.State.Effect

namespace Workbench

theorem Content.toValue_inj {content other : Content} : content.toValue = other.toValue ↔ content = other := by
  constructor
  · intro same
    cases content with
    | text s =>
      cases other with
      | text t =>
        cases same
        rfl
      | texts items => cases same
    | texts items =>
      cases other with
      | text t => cases same
      | texts others =>
        have mapped : items.map Value.text = others.map Value.text := Value.list.inj same
        have injective : Function.Injective Value.text := fun _ _ => Value.text.inj
        rw [List.map_injective_iff.mpr injective mapped]
  · exact fun same => congrArg Content.toValue same

/-- Whether arithmetic takes a text or a list for a number. A text of white space it takes for zero. -/
def Content.ReadsAsNumber (content : Content) : Prop :=
  ∃ x, content.toValue.operand = .ok x ∧ x.isNaN = false

theorem Content.not_readsAsNumber_texts (items : List String) : ¬ (Content.texts items).ReadsAsNumber := by
  have lost : (0.0 / 0.0 : Float).isNaN = true := by decide +kernel
  rintro ⟨x, reckoned, fine⟩
  cases reckoned
  exact Bool.false_ne_true (fine.symm.trans lost)

theorem Content.readsAsNumber_text (s : String) : (Content.text s).ReadsAsNumber ↔
    (Text.strip s).isEmpty = true ∨ ∃ x, Decimal.read? (Text.strip s) = some x ∧ x.isNaN = false := by
  have lost : (0.0 / 0.0 : Float).isNaN = true := by decide +kernel
  have zero : (0.0 : Float).isNaN = false := by decide +kernel
  have reads : (Content.text s).ReadsAsNumber ↔
      (if (Text.strip s).isEmpty then 0.0 else (Decimal.read? (Text.strip s)).getD (0.0 / 0.0)).isNaN = false := by
    constructor
    · rintro ⟨x, reckoned, fine⟩
      cases reckoned
      exact fine
    · exact fun fine => ⟨_, rfl, fine⟩
  rw [reads]
  by_cases blank : (Text.strip s).isEmpty = true
  · rw [if_pos blank]
    exact iff_of_true zero (Or.inl blank)
  · rw [if_neg blank]
    cases Decimal.read? (Text.strip s) with
    | none =>
      refine iff_of_false (fun fine => Bool.false_ne_true (fine.symm.trans lost)) ?_
      rintro (empty | ⟨x, found, _⟩)
      · exact blank empty
      · cases found
    | some x => simp [blank]

namespace StateChange

variable {change : StateChange} {params : Fields Value}

/-- The same change with `set` for its operator. -/
def asSet (change : StateChange) : StateChange :=
  { change with operator := .set }

/-- An undeclared assignment goes by the value that it meets: it is about text unless that reads as a number. -/
theorem worksOnText_iff (undeclared : change.type = none) (assigns : change.operator = .assign) (content : Content) :
    change.worksOnText content.toValue = true ↔ ¬ content.ReadsAsNumber := by
  cases content with
  | texts items => simp [worksOnText, undeclared, assigns, Content.toValue, Content.not_readsAsNumber_texts]
  | text s =>
    have works : change.worksOnText (.text s) =
        (!(Text.strip s).isEmpty && ((Decimal.read? (Text.strip s)).map Float.isNaN).getD true) := by
      unfold worksOnText
      rw [undeclared, assigns]
      rfl
    rw [Content.toValue, works, Content.readsAsNumber_text]
    cases Decimal.read? (Text.strip s) <;> simp

theorem effect_asSet (undeclared : change.type = none) (due : change.isDue params = true) (current : Value) :
    change.asSet.effect params (some current) = .ok (some (change.item params).toValue) := by
  have worded : change.asSet.worksOnText current = true := by
    simp [worksOnText, asSet, undeclared, isQualitative, Operator.isWord]
  have still : change.asSet.isDue params = true := due
  rw [effect, if_pos still, Option.elim, onValue, if_pos worded]
  rfl

/-- On what it takes for text an assignment does what `set` does. -/
theorem effect_assign_of_text (assigns : change.operator = .assign) (due : change.isDue params = true) {current : Value}
    (worded : change.worksOnText current = true) :
    change.effect params (some current) = .ok (some (change.item params).toValue) := by
  rw [effect, if_pos due, Option.elim, onValue, if_pos worded, onText, assigns]

/-- On what it takes for a number an assignment puts its amount, if that is a number. -/
theorem effect_assign_of_number (assigns : change.operator = .assign) (due : change.isDue params = true)
    {current : Value} (numeric : change.worksOnText current = false) {base : Float}
    (reckoned : current.operand = .ok base) (fine : base.isNaN = false) :
    change.effect params (some current) =
      (change.amount params).map fun delta => if delta.isNaN then none else some (.float delta) := by
  have worked : change.onValue params current = change.onNumber params current := by
    rw [onValue, if_neg (by simp [numeric])]
  rw [effect, if_pos due, Option.elim, worked, onNumber]
  cases change.amount params with
  | error fault => rfl
  | ok delta =>
    simp only [bind, Except.bind, reckoned, fine, Bool.false_or, Except.map, assigns]
    by_cases lost : delta.isNaN = true
    · rw [if_pos lost, if_pos lost]
      rfl
    · rw [if_neg lost, if_neg lost]
      rfl

end StateChange

namespace State

variable {params : Fields Value} {state : State} {change : StateChange} {content : Content}

theorem apply_asSet (undeclared : change.type = none) (due : change.isDue params = true) {current : Value}
    (held : Fields.get? state change.metric = some current) :
    apply params state change.asSet = .ok (Fields.update state change.metric (change.item params).toValue) := by
  have found : Fields.get? state change.asSet.metric = some current := held
  rw [apply_eq, found, StateChange.effect_asSet undeclared due]
  rfl

/-- An assignment that takes its metric for a number can only do what `set` does by leaving what is there. -/
theorem apply_assign_of_number_iff (assigns : change.operator = .assign) (due : change.isDue params = true)
    (held : Fields.get? state change.metric = some content.toValue)
    (numeric : change.worksOnText content.toValue = false) (reads : content.ReadsAsNumber) :
    apply params state change = .ok (Fields.update state change.metric (change.item params).toValue) ↔
      change.item params = content ∧ ∃ delta, change.amount params = .ok delta ∧ delta.isNaN = true := by
  have known : (Fields.get? state change.metric).isSome = true := by rw [held]; rfl
  have unchanged : state = Fields.update state change.metric content.toValue := (Fields.update_held held).symm
  obtain ⟨base, reckoned, fine⟩ := reads
  rw [apply_eq, held, StateChange.effect_assign_of_number assigns due numeric reckoned fine]
  cases amounts : change.amount params with
  | error fault => simp [Except.map]
  | ok delta =>
    simp only [Except.map, Except.ok.injEq, exists_eq_left']
    by_cases lost : delta.isNaN = true
    · rw [if_pos lost, and_iff_left lost]
      change state = _ ↔ _
      nth_rewrite 1 [unchanged]
      rw [Fields.update_inj known, Content.toValue_inj, eq_comm]
    · have differs : Value.float delta ≠ (change.item params).toValue := by
        cases change.item params <;> simp [Content.toValue]
      rw [if_neg lost]
      refine iff_of_false ?_ fun both => lost both.2
      exact fun same => differs ((Fields.update_inj known).mp same)

/-- On a metric that holds a text or a list of texts, an undeclared assignment comes to the same as `set`, which
replaces the value wholesale, just when it is not due, or meets what does not read as a number, or would only put
what is there while its amount is no number. -/
theorem assign_as_set_iff (undeclared : change.type = none) (assigns : change.operator = .assign)
    (held : Fields.get? state change.metric = some content.toValue) :
    (change.isDue params = true → applyAll params state [change.asSet] =
        .ok (Fields.update state change.metric (change.item params).toValue)) ∧
      (applyAll params state [change] = applyAll params state [change.asSet] ↔
        change.isDue params = false ∨ ¬ content.ReadsAsNumber ∨
          change.item params = content ∧ ∃ delta, change.amount params = .ok delta ∧ delta.isNaN = true) := by
  simp only [applyAll_singleton]
  refine ⟨fun due => apply_asSet undeclared due held, ?_⟩
  have suits := StateChange.worksOnText_iff undeclared assigns content
  by_cases due : change.isDue params = true
  · rw [apply_asSet undeclared due held]
    by_cases reads : content.ReadsAsNumber
    · have numeric : change.worksOnText content.toValue = false := by simpa [reads] using suits
      rw [apply_assign_of_number_iff assigns due held numeric reads]
      simp only [due, reads, Bool.true_eq_false, not_true_eq_false, false_or]
    · rw [apply_eq, held, StateChange.effect_assign_of_text assigns due (suits.mpr reads)]
      exact iff_of_true rfl (Or.inr (Or.inl reads))
  · have still : ¬ change.asSet.isDue params = true := due
    rw [apply, if_neg due, apply, if_neg still]
    exact iff_of_true rfl (Or.inl (by simpa using due))

/-- An assignment of a rendered template under a flag. -/
def levelAssigned : StateChange :=
  ⟨"mode", .assign, none, none, some "--force", none, some "%%level%% mode"⟩

def forcedLevel : Fields Value :=
  [("level", .text "SAFE"), ("force", .bool true)]

def listedMode : State :=
  [("mode", .list [.text "7", .text "calm"])]

theorem assign_as_set_iff_rendered :
    levelAssigned.type = none ∧ levelAssigned.operator = .assign ∧
      Fields.get? listedMode levelAssigned.metric = some (Content.texts ["7", "calm"]).toValue ∧
      (levelAssigned.isDue forcedLevel = true → applyAll forcedLevel listedMode [levelAssigned.asSet] =
        .ok (Fields.update listedMode levelAssigned.metric (levelAssigned.item forcedLevel).toValue)) ∧
      (applyAll forcedLevel listedMode [levelAssigned] = applyAll forcedLevel listedMode [levelAssigned.asSet] ↔
        levelAssigned.isDue forcedLevel = false ∨ ¬ (Content.texts ["7", "calm"]).ReadsAsNumber ∨
          levelAssigned.item forcedLevel = Content.texts ["7", "calm"] ∧
            ∃ delta, levelAssigned.amount forcedLevel = .ok delta ∧ delta.isNaN = true) :=
  ⟨rfl, rfl, rfl, assign_as_set_iff rfl rfl rfl⟩

/-- A bootstrap with one text that is empty at first. -/
def unsetBootstrap : Value :=
  .object [("SYSTEM_STATE_QUALITATIVE", .object [("states", .list [.object [("id", .text "mode")]])])]

def unsetMode : Definition :=
  .qualitative ⟨"mode", "", .text "", ""⟩

def safeAssigned : StateChange :=
  ⟨"mode", .assign, some (.text "SAFE"), none, none, none, none⟩

/-- A text that is empty counts as zero: it is not assigned what `set` gives it. -/
theorem unset_text_unassigned :
    Definition.load unsetBootstrap = .ok [unsetMode] ∧ State.initial [unsetMode] none = [("mode", .text "")] ∧
      Schema.change (.object [("metric", .text "mode"), ("operator", .text "="), ("value", .text "SAFE")]) =
        .valid safeAssigned ∧
      applyAll [] [("mode", .text "")] [safeAssigned] = .ok [("mode", .text "")] ∧
      applyAll [] [("mode", .text "")] [safeAssigned.asSet] = .ok [("mode", .text "SAFE")] := by
  refine ⟨rfl, by decide +kernel, rfl, ?_, ?_⟩
  · decide +kernel
  · decide +kernel

end State

end Workbench
