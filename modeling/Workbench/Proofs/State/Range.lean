import Workbench.Kernel
import Workbench.Proofs.Fields
import Workbench.Proofs.Outcome
import Workbench.Proofs.State.Frame
import Workbench.State.Gauge

namespace Workbench

/-- Whether a value can be reckoned with: a whole number must lie within the range of floating point numbers,
all other values always can. -/
def Value.Fits (value : Value) : Prop := ∃ x, value.operand = .ok x

theorem Value.fits_toValue {number : Number} : number.toValue.Fits ↔ ∃ x, number.toFloat = .ok x := by
  cases number <;> rfl

theorem Value.Fits.factor {value : Value} (fits : value.Fits) : ∃ found, value.factor = .ok found := by
  cases value with
  | int n =>
    obtain ⟨x, made⟩ := fits
    exact ⟨some x, by rw [Value.factor, show Number.ofWhole n = .ok x from made]; rfl⟩
  | _ => exact ⟨_, rfl⟩

theorem Value.eq_toValue_of_number? {value : Value} {number : Number} (found : value.number? = some number) :
    value = number.toValue := by
  cases value with
  | int n | float x =>
    cases found
    rfl
  | _ => cases found

theorem clamp_cases {α : Type} [LT α] [DecidableLT α] (low high value : α) :
    clamp low high value = low ∨ clamp low high value = high ∨ clamp low high value = value := by
  unfold clamp
  dsimp only
  split_ifs <;> simp

/-- A number within a scale is one of its ends or the number itself. -/
theorem Value.Fits.clampTo {value : Value} (fits : value.Fits) (low high : Float) :
    (value.clampTo (some (.real low, .real high))).Fits := by
  unfold Value.clampTo
  cases found : value.number? with
  | none => exact fits
  | some number =>
    rw [eq_toValue_of_number? found] at fits
    dsimp only
    rcases clamp_cases (.real low) (.real high) number with same | same | same <;> rw [same]
    · exact ⟨low, rfl⟩
    · exact ⟨high, rfl⟩
    · exact fits

theorem Content.fits (content : Content) : content.toValue.Fits := by
  cases content <;> exact ⟨_, rfl⟩

/-- Whether all values under a key can be reckoned with. -/
def Fields.Fit (fields : Fields Value) : Prop :=
  ∀ key value, fields.get? key = some value → value.Fits

theorem Fields.fit_nil : Fields.Fit [] := by
  intro key value found
  cases found

theorem Fields.Fit.update {fields : Fields Value} (fit : fields.Fit) {key : String} {value : Value}
    (fits : value.Fits) : (fields.update key value).Fit := by
  intro other held found
  rw [get?_update] at found
  split at found
  · obtain ⟨_, _, rfl⟩ := Option.map_eq_some_iff.mp found
    exact fits
  · exact fit other held found

theorem Fields.Fit.put {fields : Fields Value} (fit : fields.Fit) {key : String} {value : Value}
    (fits : value.Fits) : (fields.put key value).Fit := by
  intro other held found
  rw [get?_put] at found
  split at found
  · cases found
    exact fits
  · exact fit other held found

/-- Whether the literal of a change can be reckoned with. -/
def StateChange.Fits (change : StateChange) : Prop :=
  ∀ literal, change.value = some literal → literal.toValue.Fits

namespace StateChange

variable {change : StateChange} {params : Fields Value}

theorem Fits.amount (fits : change.Fits) (fit : params.Fit) : ∃ x, change.amount params = .ok x := by
  have scale : (change.multiplier.filter (· != "")).bind (Fields.get? params) = none ∨ ∃ param found,
      (change.multiplier.filter (· != "")).bind (Fields.get? params) = some param ∧ param.factor = .ok found := by
    cases given : (change.multiplier.filter (· != "")).bind (Fields.get? params) with
    | none => exact Or.inl rfl
    | some param =>
      obtain ⟨key, _, bound⟩ := Option.bind_eq_some_iff.mp given
      obtain ⟨found, made⟩ := (fit key param bound).factor
      exact Or.inr ⟨param, found, rfl, made⟩
  cases given : change.value with
  | none =>
    rcases scale with single | ⟨param, _ | x, scaled, made⟩
    · simp only [StateChange.amount, given, single, bind, Except.bind, pure, Except.pure]
      exact ⟨_, rfl⟩
    all_goals
      simp only [StateChange.amount, given, scaled, made, bind, Except.bind, pure, Except.pure]
      exact ⟨_, rfl⟩
  | some literal =>
    obtain ⟨base, reckoned⟩ := fits literal given
    rcases scale with single | ⟨param, _ | x, scaled, made⟩
    · simp only [StateChange.amount, given, reckoned, single, bind, Except.bind, pure, Except.pure]
      exact ⟨_, rfl⟩
    all_goals
      simp only [StateChange.amount, given, reckoned, scaled, made, bind, Except.bind, pure, Except.pure]
      exact ⟨_, rfl⟩

theorem fits_onText {current value : Value} (applied : change.onText params current = some value) : value.Fits := by
  unfold onText at applied
  split at applied
  · cases applied
    exact Content.fits _
  · cases applied
    exact Content.fits _
  · cases applied
  · split at applied
    · cases applied
    · split at applied <;> cases applied <;> exact ⟨_, rfl⟩

theorem Fits.onNumber (fits : change.Fits) (fit : params.Fit) {current : Value} (known : current.Fits) :
    ∃ result, change.onNumber params current = .ok result ∧ ∀ value, result = some value → value.Fits := by
  obtain ⟨delta, made⟩ := fits.amount fit
  obtain ⟨base, reckoned⟩ := known
  simp only [StateChange.onNumber, made, reckoned, bind, Except.bind, pure, Except.pure]
  split
  · exact ⟨none, rfl, by rintro _ ⟨⟩⟩
  · split
    all_goals
      refine ⟨_, rfl, ?_⟩
      rintro _ ⟨⟩
    all_goals exact ⟨_, rfl⟩

theorem Fits.onValue (fits : change.Fits) (fit : params.Fit) {current : Value} (known : current.Fits) :
    ∃ result, change.onValue params current = .ok result ∧ ∀ value, result = some value → value.Fits := by
  unfold StateChange.onValue
  split
  · exact ⟨_, rfl, fun _ applied => fits_onText applied⟩
  · exact fits.onNumber fit known

end StateChange

namespace State

variable {params : Fields Value} {state : State}

theorem fit_initial (definitions : List Definition) (catalog : Option Catalog) :
    Fields.Fit (State.initial definitions catalog) := by
  have own (definition : Definition) : definition.initial.Fits := by
    cases definition with
    | metric definition => exact ⟨definition.initial, rfl⟩
    | qualitative definition => exact definition.initial.fits
  have seeded (qualitative : Bool) : (State.seed qualitative).Fits := by
    cases qualitative <;> exact ⟨_, rfl⟩
  have defined : Fields.Fit
      (Fields.ofPairs (definitions.map fun definition => (definition.id, definition.initial))) := by
    unfold Fields.ofPairs
    have none := Fields.fit_nil
    generalize ([] : Fields Value) = front at none
    induction definitions generalizing front with
    | nil => exact none
    | cons definition rest ih => exact ih _ (none.put (own definition))
  unfold State.initial
  cases catalog with
  | none => exact defined
  | some catalog =>
    intro key value found
    rw [Fields.get?_append] at found
    rcases Option.or_eq_some_iff.mp found with found | ⟨_, found⟩
    · exact defined key value found
    · rw [Fields.get?_mapValues] at found
      obtain ⟨qualitative, _, same⟩ := Option.map_eq_some_iff.mp found
      rw [← same]
      exact seeded qualitative

/-- A change that can be reckoned with is applied or skipped, and the state can still be reckoned with. -/
theorem fit_apply (fit : Fields.Fit state) {change : StateChange} (fits : change.Fits) (given : params.Fit) :
    ∃ next, State.apply params state change = .ok next ∧ Fields.Fit next := by
  unfold State.apply
  split
  · cases found : Fields.get? state change.metric with
    | none => exact ⟨state, rfl, fit⟩
    | some current =>
      obtain ⟨result, applied, small⟩ := fits.onValue given (fit _ _ found)
      simp only [applied, Except.map]
      cases result with
      | none => exact ⟨state, rfl, fit⟩
      | some value => exact ⟨_, rfl, fit.update (small value rfl)⟩
  · exact ⟨state, rfl, fit⟩

theorem fit_applyAll (fit : Fields.Fit state) {changes : List StateChange} (fits : ∀ change ∈ changes, change.Fits)
    (given : params.Fit) : ∃ next, State.applyAll params state changes = .ok next ∧ Fields.Fit next := by
  induction changes generalizing state with
  | nil => exact ⟨state, rfl, fit⟩
  | cons change rest ih =>
    obtain ⟨middle, applied, small⟩ := fit_apply fit (fits change List.mem_cons_self) given
    obtain ⟨next, later, kept⟩ := ih small fun other member => fits other (List.mem_cons_of_mem change member)
    refine ⟨next, ?_, kept⟩
    simp only [State.applyAll, applied, later]

theorem fits_overrideValue? {definitions : List Definition} {key raw : String} {value : Value}
    (made : State.overrideValue? definitions key raw = some value) : value.Fits := by
  unfold State.overrideValue? at made
  split at made
  · obtain ⟨x, _, rfl⟩ := Option.map_eq_some_iff.mp made
    exact ⟨x, rfl⟩
  · cases made
    exact ⟨_, rfl⟩

theorem fit_override (fit : Fields.Fit state) (definitions : List Definition) (line : String) :
    Fields.Fit (State.override definitions state line).1 :=
  State.override_induction fit fun _ _ _ _ _ _ _ made kept => kept.update (fits_overrideValue? made)

end State

theorem Gauges.fit_metric {state : State} (fit : Fields.Fit state) (definition : MetricDefinition) :
    ∃ gauge, Gauges.metric definition state = .ok gauge := by
  have fits : (State.shown state definition.id).Fits := by
    unfold State.shown
    cases found : Fields.get? state definition.id with
    | none => exact ⟨_, rfl⟩
    | some value => exact fit _ _ found
  have small := fits.clampTo definition.range.1 definition.range.2
  unfold Gauges.metric
  dsimp only
  cases found : ((State.shown state definition.id).clampTo
      (some (.real definition.range.1, .real definition.range.2))).number? with
  | none => exact ⟨_, rfl⟩
  | some number =>
    rw [Value.eq_toValue_of_number? found] at small
    obtain ⟨x, made⟩ := Value.fits_toValue.mp small
    dsimp only
    split
    · exact ⟨_, by rw [made]; rfl⟩
    · exact ⟨_, rfl⟩

/-- The numeric metrics among the definitions, in their order. -/
def Definition.metrics (definitions : List Definition) : List MetricDefinition :=
  definitions.filterMap fun definition => match definition with
    | .metric definition => some definition
    | .qualitative _ => none

namespace Gauges

variable {state : State}

/-- The gauges of all definitions, added to those before, when each metric has its gauge. -/
theorem exists_foldlM_add {definitions : List Definition}
    (each : ∀ definition ∈ Definition.metrics definitions, ∃ gauge, metric definition state = .ok gauge)
    (gauges : Gauges) :
    ∃ made metrics, definitions.foldlM (fun gauges definition => gauges.add state definition) gauges = .ok made ∧
      made.metrics = gauges.metrics ++ metrics ∧
      List.Forall₂ (fun definition gauge => metric definition state = .ok gauge) (Definition.metrics definitions)
        metrics := by
  induction definitions generalizing gauges with
  | nil => exact ⟨gauges, [], rfl, (List.append_nil _).symm, .nil⟩
  | cons definition rest ih =>
    rw [List.foldlM_cons]
    cases definition with
    | qualitative definition => exact ih each _
    | metric definition =>
      obtain ⟨gauge, one⟩ := each definition List.mem_cons_self
      obtain ⟨made, metrics, whole, same, others⟩ := ih (fun other member => each other (List.mem_cons_of_mem _ member))
        { gauges with metrics := gauges.metrics ++ [gauge] }
      refine ⟨made, gauge :: metrics, Except.bind_eq_ok.mpr ⟨_, ?_, whole⟩, ?_, .cons one others⟩
      · rw [add, one]
        rfl
      · rw [same, List.append_assoc, List.singleton_append]

/-- A state that can be reckoned with can be shown. -/
theorem fit_ofState (fit : Fields.Fit state) (definitions : List Definition) :
    ∃ gauges, ofState definitions state = .ok gauges := by
  have each (definition : MetricDefinition) (_ : definition ∈ Definition.metrics definitions) :=
    fit_metric fit definition
  obtain ⟨gauges, _, made, _⟩ := exists_foldlM_add each ⟨[], []⟩
  exact ⟨gauges, made⟩

end Gauges

end Workbench
