import Workbench.Kernel
import Workbench.Proofs.State.Frame

namespace Workbench

theorem State.keys_apply {params : Fields Value} {state next : State} {change : StateChange}
    (applied : State.apply params state change = .ok next) : Fields.keys next = Fields.keys state := by
  rw [State.apply_eq] at applied
  obtain ⟨made, _, rfl⟩ := Except.map_eq_ok.mp applied
  cases made with
  | none => rfl
  | some value => exact Fields.keys_update ..

theorem State.keys_applyAll {params : Fields Value} {state next : State} {changes : List StateChange}
    (applied : State.applyAll params state changes = .ok next) : Fields.keys next = Fields.keys state := by
  induction changes generalizing state with
  | nil => cases applied; rfl
  | cons change rest ih =>
    rw [State.applyAll_cons] at applied
    obtain ⟨middle, first, later⟩ := Except.bind_eq_ok.mp applied
    rw [ih later, State.keys_apply first]

theorem State.keys_override (definitions : List Definition) (state : State) (line : String) :
    Fields.keys (State.override definitions state line).1 = Fields.keys state :=
  State.override_induction (motive := fun reached => Fields.keys reached = Fields.keys state) rfl
    fun _ _ _ _ _ _ _ _ same => (Fields.keys_update ..).trans same

namespace Kernel

theorem keys_adopt (state : State) (newState : Fields Value) :
    Fields.keys (adopt state newState) = Fields.keys state := by
  unfold adopt
  induction newState generalizing state with
  | nil => rfl
  | cons entry rest ih => rw [List.foldl_cons, ih, Fields.keys_update]

theorem keys_disturb {kernel : Kernel} {state next : State} (disturbed : kernel.disturb state = .ok next) :
    Fields.keys next = Fields.keys state := by
  obtain ⟨middle, bumped, same⟩ := Except.map_eq_ok.mp disturbed
  rw [← State.keys_apply bumped, ← same]
  split
  · rfl
  · exact Fields.keys_update ..

theorem keys_dissonance {kernel : Kernel} {state : State} {store : Store} {reason : String} {turn : Turn}
    (answered : kernel.dissonance state store reason = .ok turn) :
    Fields.keys turn.state = Fields.keys state := by
  obtain ⟨next, disturbed, same⟩ := Except.map_eq_ok.mp answered
  rw [← same, keys_disturb disturbed]

theorem keys_runCommand {resolution : Resolution} {state : State} {store : Store} {turn : Turn}
    (ran : (runCommand resolution state store).1 = .ok turn) :
    Fields.keys turn.state = Fields.keys state := by
  unfold runCommand at ran
  split at ran
  · cases ran
    rfl
  · split at ran
    · cases ran
    · rename_i params _ _ next applied
      cases ran
      exact State.keys_applyAll applied

theorem keys_interpretFreely {kernel : Kernel} {sources : Sources} {line operator : String} {state : State}
    {store : Store} {history : List Value} {turn : Turn}
    (ran : (kernel.interpretFreely sources line state store history operator).outcome = .ok turn) :
    Fields.keys turn.state = Fields.keys state := by
  unfold interpretFreely at ran
  dsimp only at ran
  split at ran
  · exact keys_dissonance ran
  · cases ran
    exact keys_adopt ..

/-- Whichever way a turn takes, the metrics stay those that they were. -/
theorem keys_execute {kernel : Kernel} {sources : Sources} {input operator : String} {state : State}
    {store : Store} {history : List Value} {turn : Turn}
    (ran : (kernel.execute sources input state store history operator).outcome = .ok turn) :
    Fields.keys turn.state = Fields.keys state := by
  unfold execute at ran
  generalize Text.strip input = line at ran
  by_cases forced : Text.leads State.overrideCommand line = true
  · rw [if_pos forced] at ran
    rw [← Except.ok.inj ran]
    exact State.keys_override ..
  · rw [if_neg forced] at ran
    generalize Resolution.resolve kernel.catalog line sources.draws = resolved at ran
    obtain ⟨resolution, draws⟩ := resolved
    cases resolution with
    | some resolution => exact keys_runCommand ran
    | none => exact keys_interpretFreely ran

end Kernel

end Workbench
