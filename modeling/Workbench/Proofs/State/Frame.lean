import Workbench.Proofs.State.Effect
import Workbench.State.Overrides

namespace Workbench

namespace State

/-- The metrics that the tokens of an override line name. -/
def overrideKeys (line : String) : List String :=
  (overrideTokens line).filterMap fun token => (override? token).map Prod.fst

theorem acceptable?_eq_some {definitions : List Definition} {state : State} {token key : String} {value : Value} :
    acceptable? definitions state token = some (key, value) ↔ ∃ raw, override? token = some (key, raw) ∧
      Fields.has state key = true ∧ overrideValue? definitions key raw = some value := by
  unfold acceptable?
  constructor
  · intro accepted
    obtain ⟨⟨own, raw⟩, written, checked⟩ := Option.bind_eq_some_iff.mp accepted
    dsimp only at checked
    split_ifs at checked with known
    obtain ⟨made, taken, same⟩ := Option.map_eq_some_iff.mp checked
    cases same
    exact ⟨raw, written, known, taken⟩
  · rintro ⟨raw, written, known, taken⟩
    simp [written, known, taken]

/-- What overwriting a metric keeps is kept by overrides. -/
theorem override_induction {definitions : List Definition} {state : State} {line : String} {motive : State → Prop}
    (start : motive state)
    (step : ∀ token ∈ overrideTokens line, ∀ key raw value current, override? token = some (key, raw) →
      overrideValue? definitions key raw = some value → motive current → motive (Fields.update current key value)) :
    motive (override definitions state line).1 := by
  have throughout : ∀ tokens : List String, tokens ⊆ overrideTokens line → ∀ acc : State × Nat, motive acc.1 →
      motive (tokens.foldl (applyOverride definitions) acc).1 := by
    intro tokens
    induction tokens with
    | nil => exact fun _ _ kept => kept
    | cons token rest ih =>
      intro among acc kept
      obtain ⟨own, others⟩ := List.cons_subset.mp among
      refine ih others _ ?_
      unfold applyOverride
      cases accepted : acceptable? definitions acc.1 token with
      | none => exact kept
      | some entry =>
        obtain ⟨raw, written, _, made⟩ := acceptable?_eq_some.mp accepted
        exact step token own entry.1 raw entry.2 acc.1 written made kept
  exact throughout (overrideTokens line) (List.Subset.refl _) (state, 0) start

/-- Overrides change no metric but those that they name. -/
theorem agreeOff_override (definitions : List Definition) (state : State) (line : String) :
    Fields.AgreeOff (overrideKeys line) state (override definitions state line).1 := by
  refine override_induction (fun _ _ => rfl) ?_
  intro token own key raw value current written _ agrees
  have named : key ∈ overrideKeys line := List.mem_filterMap.mpr ⟨token, own, by rw [written]; rfl⟩
  exact agrees.trans (Fields.agreeOff_update named current value)

theorem agreeOff_apply {params : Fields Value} {state next : State} {change : StateChange}
    (applied : apply params state change = .ok next) : Fields.AgreeOff [change.metric] state next := by
  rw [apply_eq] at applied
  obtain ⟨made, _, rfl⟩ := Except.map_eq_ok.mp applied
  intro other outside
  have differs : change.metric ≠ other := fun same => outside (List.mem_singleton.mpr same.symm)
  rw [get?_place, if_neg differs]

/-- A change that is due works on the value of its metric, if there is one. -/
theorem apply_cases {params : Fields Value} {state next : State} {change : StateChange}
    (applied : apply params state change = .ok next) (due : change.isDue params = true) :
    Fields.get? state change.metric = none ∧ next = state ∨
      ∃ current result, Fields.get? state change.metric = some current ∧ change.onValue params current = .ok result ∧
        Fields.get? next change.metric = some (result.getD current) := by
  rw [apply_eq, StateChange.effect, if_pos due] at applied
  obtain ⟨result, worked, rfl⟩ := Except.map_eq_ok.mp applied
  cases found : Fields.get? state change.metric with
  | none =>
    rw [found] at worked
    cases worked
    exact Or.inl ⟨rfl, rfl⟩
  | some current =>
    rw [found] at worked
    have value : Fields.get? (place state change.metric result) change.metric = some (result.getD current) := by
      rw [get?_place, if_pos rfl, found]
      rfl
    exact Or.inr ⟨current, result, rfl, worked, value⟩

end State

end Workbench
