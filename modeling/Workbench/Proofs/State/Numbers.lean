import Workbench.Proofs.State.Batch
import Workbench.Proofs.State.NaN

namespace Workbench

namespace StateChange

variable {change : StateChange} {params : Fields Value} {current : Value} {made : Option Value}

/-- On a number, text and lists are only put in its place. -/
theorem onText_of_number (numeric : current.number?.isSome = true) :
    ((change.onText params current).getD current).number?.isSome = true ↔
      ¬ (change.operator = .set ∨ change.operator = .assign) := by
  have worded (content : Content) : content.toValue.number? = none := by cases content <;> rfl
  unfold onText
  cases change.operator <;> cases change.item params <;> simp [numeric, worded]

theorem onNumber_number (worked : change.onNumber params current = .ok made) (numeric : current.number?.isSome = true) :
    (made.getD current).number?.isSome = true := by
  obtain ⟨delta, _, worked⟩ := Except.bind_eq_ok.mp worked
  obtain ⟨base, _, worked⟩ := Except.bind_eq_ok.mp worked
  by_cases lost : (base.isNaN || delta.isNaN) = true
  · rw [if_pos lost] at worked
    cases worked
    exact numeric
  · rw [if_neg lost] at worked
    cases operation : change.operator with
    | increase | decrease | assign =>
      rw [operation] at worked
      cases worked
      rfl
    | set | add | remove =>
      rw [operation] at worked
      cases worked
      exact numeric

/-- A change leaves a number in the place of a number unless it replaces it by its text or list. -/
theorem number_of_onValue (worked : change.onValue params current = .ok made)
    (numeric : current.number?.isSome = true) :
    (made.getD current).number?.isSome = true ↔ ¬ change.Replaces := by
  unfold onValue at worked
  rw [worksOnText_of_number numeric] at worked
  by_cases qualitative : change.isQualitative = true
  · rw [if_pos qualitative] at worked
    cases worked
    simp only [onText_of_number numeric, Replaces, qualitative, true_and]
  · rw [if_neg qualitative] at worked
    exact iff_of_true (onNumber_number worked numeric) fun replaces => qualitative replaces.1

/-- Of the changes that are not declared qualitative only an undeclared `set` replaces. -/
theorem replaces_iff_set (accepted : change.contradiction? = none) (undeclared : change.type ≠ some .qualitative) :
    change.Replaces ↔ change.operator = .set := by
  unfold contradiction? at accepted
  unfold Replaces isQualitative
  cases declared : change.type with
  | none => cases change.operator <;> simp [Operator.isWord]
  | some type =>
    cases type with
    | qualitative => exact absurd declared undeclared
    | numerical => cases operation : change.operator <;> simp_all [Operator.isWord]

end StateChange

namespace State

variable {params : Fields Value} {state next : State} {metric : String}

def HoldsNumber (state : State) (metric : String) : Prop :=
  ∃ value, Fields.get? state metric = some value ∧ value.number?.isSome = true

theorem holdsNumber_apply (held : state.HoldsNumber metric) {change : StateChange}
    (applied : apply params state change = .ok next) :
    next.HoldsNumber metric ↔ (change.Reaches params metric → ¬ change.Replaces) := by
  obtain ⟨current, found, numeric⟩ := held
  by_cases reaches : change.Reaches params metric
  · obtain ⟨rfl, due⟩ := reaches
    have reaches : change.Reaches params change.metric := ⟨rfl, due⟩
    rcases apply_cases applied due with ⟨absent, _⟩ | ⟨value, made, known, worked, left⟩
    · cases found.symm.trans absent
    · cases found.symm.trans known
      rw [← StateChange.number_of_onValue worked numeric]
      simp [HoldsNumber, left, reaches]
  · have same := get?_of_unreached applied reaches
    exact iff_of_true ⟨current, same.trans found, numeric⟩ fun named => absurd named reaches

/-- A metric that holds a number holds one throughout a batch just when no change that reaches it replaces it. -/
theorem holdsNumber_throughout (held : state.HoldsNumber metric) {changes : List StateChange}
    (applied : applyAll params state changes = .ok next) :
    (∀ front back middle, changes = front ++ back → applyAll params state front = .ok middle →
        middle.HoldsNumber metric) ↔
      ∀ change ∈ changes, change.Reaches params metric → ¬ change.Replaces := by
  induction changes generalizing state with
  | nil =>
    refine iff_of_true ?_ (by simp)
    intro front back middle whole worked
    obtain ⟨rfl, rfl⟩ := List.nil_eq_append_iff.mp whole
    cases worked
    exact held
  | cons change rest ih =>
    rw [applyAll_cons] at applied
    obtain ⟨between, first, later⟩ := Except.bind_eq_ok.mp applied
    -- A beginning of the batch is empty or has the first change in front of a beginning of the rest.
    rw [List.forall_mem_cons, ← holdsNumber_apply held first]
    constructor
    · intro throughout
      have kept : between.HoldsNumber metric := by
        refine throughout [change] rest between rfl ?_
        rw [applyAll_cons, first]
        rfl
      refine ⟨kept, (ih kept later).mp ?_⟩
      intro front back middle whole worked
      refine throughout (change :: front) back middle (by rw [whole, List.cons_append]) ?_
      rw [applyAll_cons, first]
      exact worked
    · rintro ⟨kept, others⟩ front back middle whole worked
      cases front with
      | nil =>
        cases worked
        exact held
      | cons other front =>
        obtain ⟨same, tail⟩ := List.cons_eq_cons.mp whole
        rw [← same, applyAll_cons, first] at worked
        exact (ih kept later).mpr others front back middle tail worked

/-- In a batch of accepted changes none of which is declared qualitative, a metric that holds a number holds one
throughout, just when no `set` that is due names it. -/
theorem numbers_stay_iff {changes : List StateChange} (accepted : ∀ change ∈ changes, change.contradiction? = none)
    (undeclared : ∀ change ∈ changes, change.type ≠ some .qualitative) (held : state.HoldsNumber metric)
    (applied : applyAll params state changes = .ok next) :
    (∀ front back middle, changes = front ++ back → applyAll params state front = .ok middle →
        middle.HoldsNumber metric) ↔
      ∀ change ∈ changes, change.metric = metric → change.isDue params = true → change.operator ≠ .set := by
  rw [holdsNumber_throughout held applied]
  refine forall₂_congr fun change member => ?_
  rw [StateChange.replaces_iff_set (accepted change member) (undeclared change member), StateChange.Reaches, and_imp]

/-- Changes of a number by every operator that is not declared, the `set` under a flag. -/
def looseBatch : List StateChange :=
  [stepOn "heat" none, ⟨"heat", .add, some (.text "hot"), none, none, none, none⟩,
    ⟨"heat", .assign, some (.text "7.5"), none, none, none, none⟩,
    ⟨"heat", .remove, some (.text "7.5"), none, none, none, none⟩,
    ⟨"heat", .decrease, some (.int 2), none, none, none, none⟩,
    ⟨"heat", .set, some (.text "hot"), none, some "--force", none, none⟩]

theorem numbers_stay_iff_loose :
    (∀ change ∈ looseBatch, change.contradiction? = none) ∧
      (∀ change ∈ looseBatch, change.type ≠ some .qualitative) ∧ calmState.HoldsNumber "heat" ∧
      applyAll [] calmState looseBatch = .ok [("heat", .float 5.5), ("mood", .text "calm")] ∧
      ((∀ front back middle, looseBatch = front ++ back → applyAll [] calmState front = .ok middle →
          middle.HoldsNumber "heat") ↔
        ∀ change ∈ looseBatch, change.metric = "heat" → change.isDue [] = true → change.operator ≠ .set) := by
  have accepted : ∀ change ∈ looseBatch, change.contradiction? = none := by decide
  have undeclared : ∀ change ∈ looseBatch, change.type ≠ some .qualitative := by decide
  have held : calmState.HoldsNumber "heat" := ⟨.float 0.0, rfl, rfl⟩
  have applied : applyAll [] calmState looseBatch = .ok [("heat", .float 5.5), ("mood", .text "calm")] := by
    decide +kernel
  exact ⟨accepted, undeclared, held, applied, numbers_stay_iff accepted undeclared held applied⟩

/-- An undeclared `set` on a metric that holds a number. -/
def wordOnHeat : StateChange :=
  ⟨"heat", .set, some (.text "hot"), none, none, none, none⟩

/-- Such a change is accepted, and it puts its text in the place of the number. -/
theorem undeclared_set_takes_number :
    Schema.change (.object [("metric", .text "heat"), ("operator", .text "set"), ("value", .text "hot")]) =
        .valid wordOnHeat ∧
      wordOnHeat.type ≠ some .qualitative ∧ calmState.HoldsNumber "heat" ∧
      applyAll [] calmState [wordOnHeat] = .ok [("heat", .text "hot"), ("mood", .text "calm")] ∧
      ¬ State.HoldsNumber [("heat", .text "hot"), ("mood", .text "calm")] "heat" := by
  refine ⟨rfl, by decide, ⟨.float 0.0, rfl, rfl⟩, by decide +kernel, ?_⟩
  rintro ⟨value, found, numeric⟩
  cases found
  cases numeric

end State

end Workbench
