import Workbench.Proofs.State.Batch
import Workbench.Proofs.State.Effect
import Workbench.Proofs.State.Metrics

namespace Workbench.State

/-- The changes of a batch that name a metric, in their order. -/
def naming (metric : String) (changes : List StateChange) : List StateChange :=
  changes.filter fun change => change.metric = metric

theorem naming_append (metric : String) (front back : List StateChange) :
    naming metric (front ++ back) = naming metric front ++ naming metric back :=
  List.filter_append ..

variable {params : Fields Value} {state next : State}

/-- Changes of different metrics come to the same in either order, whether both can be worked out or not. -/
theorem apply_comm {first second : StateChange} (apart : first.metric ≠ second.metric) (params : Fields Value)
    (state : State) :
    (apply params state first >>= fun next => apply params next second) =
      apply params state second >>= fun next => apply params next first := by
  have blind (made : Option Value) :
      Fields.get? (place state first.metric made) second.metric = Fields.get? state second.metric := by
    rw [get?_place, if_neg apart]
  have unseen (made : Option Value) :
      Fields.get? (place state second.metric made) first.metric = Fields.get? state first.metric := by
    rw [get?_place, if_neg apart.symm]
  simp only [apply_eq]
  cases one : first.effect params (Fields.get? state first.metric) with
  | error fault =>
    cases two : second.effect params (Fields.get? state second.metric) with
    | error other => rfl
    | ok later => simp only [Except.map, bind, Except.bind, unseen, one]
  | ok made =>
    cases two : second.effect params (Fields.get? state second.metric) with
    | error other => simp only [Except.map, bind, Except.bind, blind, two]
    | ok later =>
      simp only [Except.map, bind, Except.bind, blind, two, unseen, one]
      rw [place_comm apart]

/-- A change may be made before others that name other metrics. -/
theorem applyAll_forward {front : List StateChange} {change : StateChange}
    (apart : ∀ other ∈ front, other.metric ≠ change.metric) (back : List StateChange) (params : Fields Value)
    (state : State) :
    applyAll params state (front ++ change :: back) = applyAll params state (change :: (front ++ back)) := by
  induction front generalizing state with
  | nil => rfl
  | cons other rest ih =>
    obtain ⟨differs, others⟩ := List.forall_mem_cons.mp apart
    calc applyAll params state (other :: (rest ++ change :: back))
        = apply params state other >>= fun next => applyAll params next (change :: (rest ++ back)) := by
          simp only [applyAll_cons, ih others]
      _ = (apply params state other >>= fun next => apply params next change) >>= fun last =>
            applyAll params last (rest ++ back) := by
          simp only [applyAll_cons, bind_assoc]
      _ = (apply params state change >>= fun next => apply params next other) >>= fun last =>
            applyAll params last (rest ++ back) := by
          rw [apply_comm differs]
      _ = applyAll params state (change :: (other :: rest ++ back)) := by
          simp only [List.cons_append, applyAll_cons, bind_assoc]

/-- Where the first change of a batch stands in another batch with the same changes of each metric: behind changes of
other metrics only, and without it the two batches still have the same changes of each. -/
theorem exists_forward {change : StateChange} {rest others : List StateChange}
    (same : ∀ metric, naming metric (change :: rest) = naming metric others) :
    ∃ front back, others = front ++ change :: back ∧ (∀ other ∈ front, other.metric ≠ change.metric) ∧
      ∀ metric, naming metric rest = naming metric (front ++ back) := by
  have own : naming change.metric others = change :: naming change.metric rest := by
    rw [← same, naming, List.filter_cons_of_pos (by simp)]
    rfl
  obtain ⟨front, back, whole, apart, _, later⟩ := List.filter_eq_cons_iff.mp own
  have differs : ∀ other ∈ front, other.metric ≠ change.metric := by simpa using apart
  refine ⟨front, back, whole, differs, ?_⟩
  intro metric
  have split := same metric
  rw [whole] at split
  by_cases named : change.metric = metric
  · subst named
    have unnamed : naming change.metric front = [] := List.filter_eq_nil_iff.mpr (by simpa using differs)
    rw [naming_append, unnamed, List.nil_append]
    exact later.symm
  · simpa [naming, named] using split

/-- Only the order among the changes of one metric matters. -/
theorem applyAll_of_naming {first second : List StateChange}
    (same : ∀ metric, naming metric first = naming metric second) (params : Fields Value) (state : State) :
    applyAll params state first = applyAll params state second := by
  induction first generalizing second state with
  | nil =>
    have empty : second = [] := by
      by_contra filled
      obtain ⟨change, member⟩ := List.exists_mem_of_ne_nil second filled
      have kept : change ∈ naming change.metric second := List.mem_filter.mpr ⟨member, by simp⟩
      rw [← same] at kept
      cases kept
    rw [empty]
  | cons change rest ih =>
    -- The second batch has this change too, behind changes of other metrics, and it is made first there.
    obtain ⟨front, back, rfl, apart, left⟩ := exists_forward same
    rw [applyAll_forward apart, applyAll_cons, applyAll_cons]
    simp only [ih left]

/-- What a change leaves in a metric is what it would leave if there were no other. -/
theorem apply_alone {metric : String} {current : Value} (held : Fields.get? state metric = some current)
    {change : StateChange} (applied : apply params state change = .ok next) :
    ∃ value, Fields.get? next metric = some value ∧
      applyAll params [(metric, current)] (naming metric [change]) = .ok [(metric, value)] := by
  rw [apply_eq] at applied
  obtain ⟨made, worked, rfl⟩ := Except.map_eq_ok.mp applied
  by_cases named : change.metric = metric
  · subst named
    have only : Fields.get? [(change.metric, current)] change.metric = some current := by simp [Fields.get?]
    refine ⟨made.getD current, by rw [get?_place, if_pos rfl, held]; rfl, ?_⟩
    rw [held] at worked
    have lone : naming change.metric [change] = [change] := by simp [naming]
    rw [lone, applyAll_cons, apply_eq, only, worked]
    cases made with
    | none => rfl
    | some value => simp [Except.map, bind, Except.bind, place, applyAll, Fields.update]
  · have skipped : naming metric [change] = [] := by simp [naming, named]
    exact ⟨current, by rw [get?_place, if_neg named, held], by rw [skipped]; rfl⟩

/-- What a batch leaves in a metric is what the changes of this metric would leave in it if there were no other. -/
theorem applyAll_alone {metric : String} {current : Value} (held : Fields.get? state metric = some current)
    {changes : List StateChange} (applied : applyAll params state changes = .ok next) :
    ∃ value, Fields.get? next metric = some value ∧
      applyAll params [(metric, current)] (naming metric changes) = .ok [(metric, value)] := by
  induction changes generalizing state current with
  | nil =>
    cases applied
    exact ⟨current, held, rfl⟩
  | cons change rest ih =>
    rw [applyAll_cons] at applied
    obtain ⟨middle, first, later⟩ := Except.bind_eq_ok.mp applied
    obtain ⟨between, kept, alone⟩ := apply_alone held first
    obtain ⟨value, found, others⟩ := ih kept later
    refine ⟨value, found, ?_⟩
    have split : naming metric (change :: rest) = naming metric [change] ++ naming metric rest :=
      naming_append metric [change] rest
    rw [split, applyAll_append, alone]
    exact others

theorem get?_eq_none_of_applyAll {metric : String} (unknown : Fields.get? state metric = none)
    {changes : List StateChange} (applied : applyAll params state changes = .ok next) :
    Fields.get? next metric = none := by
  rw [← Option.not_isSome_iff_eq_none] at unknown ⊢
  intro known
  have member := Fields.has_iff_mem_keys.mp known
  rw [keys_applyAll applied] at member
  exact unknown (Fields.has_iff_mem_keys.mpr member)

/-- Batches with the same changes of each metric come to the same, and what a batch leaves in a metric depends on
nothing but the metric's own value, the parameters and its own changes. -/
theorem metrics_do_not_interfere (params : Fields Value) (first second : List StateChange) :
    ((∀ metric, naming metric first = naming metric second) →
      ∀ state, applyAll params state first = applyAll params state second) ∧
    ∀ metric, naming metric first = naming metric second →
      ∀ one other oneAfter otherAfter, Fields.get? one metric = Fields.get? other metric →
        applyAll params one first = .ok oneAfter → applyAll params other second = .ok otherAfter →
          Fields.get? oneAfter metric = Fields.get? otherAfter metric := by
  refine ⟨fun same state => applyAll_of_naming same params state, ?_⟩
  intro metric same one other oneAfter otherAfter agree applied worked
  cases held : Fields.get? one metric with
  | none =>
    rw [get?_eq_none_of_applyAll held applied, get?_eq_none_of_applyAll (agree.symm.trans held) worked]
  | some current =>
    obtain ⟨value, found, alone⟩ := applyAll_alone held applied
    obtain ⟨again, kept, lone⟩ := applyAll_alone (agree.symm.trans held) worked
    rw [← same, alone] at lone
    cases lone
    rw [found, kept]

def moodTo (word : String) : StateChange :=
  ⟨"mood", .set, some (.text word), none, none, none, none⟩

/-- Steps of one metric among changes of another. -/
def mingledBatch : List StateChange :=
  [stepOn "heat" none, moodTo "grim", stepOn "heat" (some "--deep"), moodTo "tired"]

def sortedBatch : List StateChange :=
  [moodTo "grim", moodTo "tired", stepOn "heat" none, stepOn "heat" (some "--deep")]

theorem metrics_do_not_interfere_mingled :
    (∀ metric, naming metric mingledBatch = naming metric sortedBatch) ∧
      applyAll [("deep", .bool true)] calmState mingledBatch =
        applyAll [("deep", .bool true)] calmState sortedBatch ∧
      Fields.get? calmState "heat" = Fields.get? [("heat", .float 0.0)] "heat" ∧
      applyAll [("deep", .bool true)] calmState mingledBatch =
        .ok [("heat", .float 2.0), ("mood", .text "tired")] ∧
      applyAll [("deep", .bool true)] [("heat", .float 0.0)] sortedBatch = .ok [("heat", .float 2.0)] ∧
      Fields.get? [("heat", Value.float 2.0), ("mood", .text "tired")] "heat" =
        Fields.get? [("heat", Value.float 2.0)] "heat" := by
  have same : ∀ metric, naming metric mingledBatch = naming metric sortedBatch := by
    intro metric
    by_cases heat : "heat" = metric
    · subst heat
      decide
    · by_cases mood : "mood" = metric
      · subst mood
        decide
      · simp [naming, mingledBatch, sortedBatch, stepOn, moodTo, heat, mood]
  have agree : Fields.get? calmState "heat" = Fields.get? [("heat", .float 0.0)] "heat" := rfl
  have one : applyAll [("deep", .bool true)] calmState mingledBatch =
      .ok [("heat", .float 2.0), ("mood", .text "tired")] := by decide +kernel
  have other : applyAll [("deep", .bool true)] [("heat", .float 0.0)] sortedBatch = .ok [("heat", .float 2.0)] := by
    decide +kernel
  have both := metrics_do_not_interfere [("deep", .bool true)] mingledBatch sortedBatch
  exact ⟨same, both.1 same calmState, agree, one, other, both.2 "heat" (same "heat") _ _ _ _ agree one other⟩

end Workbench.State
