import Workbench.Proofs.Kernel.Frame
import Workbench.Proofs.Kernel.Range
import Workbench.Proofs.State.NaN

namespace Workbench.Kernel

variable {kernel : Kernel} {sources : Sources} {line operator : String} {state next : State} {store : Store}
  {history : List Value}

theorem isNaN_entropyStep : entropyStep.isNaN = false := by
  decide +kernel

theorem onValue_entropyBump {current : Value} {result : Option Value}
    (worked : entropyBump.onValue [] current = .ok result) :
    ∃ base, current.operand = .ok base ∧
      result.getD current = if base.isNaN then current else .float (base + entropyStep) := by
  have numeric : entropyBump.onNumber [] current = .ok result := worked
  obtain ⟨delta, amounts, numeric⟩ := Except.bind_eq_ok.mp numeric
  obtain ⟨base, reckoned, numeric⟩ := Except.bind_eq_ok.mp numeric
  have step : entropyBump.amount [] = .ok entropyStep := rfl
  cases step.symm.trans amounts
  rw [isNaN_entropyStep, Bool.or_false] at numeric
  refine ⟨base, reckoned, ?_⟩
  by_cases lost : base.isNaN = true
  · rw [if_pos lost] at numeric ⊢
    cases numeric
    rfl
  · rw [if_neg lost] at numeric ⊢
    cases numeric
    rfl

/-- The entropy after a failed interpretation: raised by a step if it can be reckoned with, and within its scale. -/
theorem disturb_cases (disturbed : kernel.disturb state = .ok next) :
    Fields.get? state entropyMetric = none ∧ Fields.get? next entropyMetric = none ∨
      ∃ current base, Fields.get? state entropyMetric = some current ∧ current.operand = .ok base ∧
        Fields.get? next entropyMetric =
          some ((if base.isNaN then current else .float (base + entropyStep)).clampTo
            (some (.real kernel.entropyRange.1, .real kernel.entropyRange.2))) := by
  obtain ⟨raised, applied, bounded⟩ := Except.map_eq_ok.mp disturbed
  rcases State.apply_cases applied rfl with ⟨found, rfl⟩ | ⟨current, result, found, worked, held⟩
  · have absent : Fields.get? raised entropyMetric = none := found
    rw [absent] at bounded
    cases bounded
    exact Or.inl ⟨absent, absent⟩
  · obtain ⟨base, reckoned, value⟩ := onValue_entropyBump worked
    have there : Fields.get? raised entropyMetric = some (result.getD current) := held
    rw [there, value] at bounded
    cases bounded
    refine Or.inr ⟨current, base, found, reckoned, ?_⟩
    rw [Fields.get?_update, if_pos rfl, there]
    rfl

/-- Whether the scale of the entropy has no lower end, though the entropy can be reckoned with. -/
def Unscaled (kernel : Kernel) (state : State) : Prop :=
  kernel.entropyRange.1.isNaN = true ∧ ∃ current base, Fields.get? state entropyMetric = some current ∧
    current.operand = .ok base ∧ base.isNaN = false

theorem disturb_of_unscaled (unscaled : kernel.Unscaled state) : ∃ next, kernel.disturb state = .ok next := by
  obtain ⟨_, current, base, found, reckoned, _⟩ := unscaled
  obtain ⟨result, worked, _⟩ := fits_entropyBump.onValue Fields.fit_nil ⟨base, reckoned⟩
  have due : entropyBump.isDue [] = true := rfl
  have there : Fields.get? state entropyBump.metric = some current := found
  simp only [disturb, State.apply, due, there, worked, if_true, Except.map]
  exact ⟨_, rfl⟩

/-- A failed interpretation leaves what is not a number only on a scale without a lower end. -/
theorem holdsNaN_disturb (clean : state.Clean) (disturbed : kernel.disturb state = .ok next) (key : String) :
    next.HoldsNaN key ↔ key = entropyMetric ∧ kernel.Unscaled state := by
  by_cases entropy : key = entropyMetric
  · subst entropy
    rcases disturb_cases disturbed with ⟨found, absent⟩ | ⟨current, base, found, reckoned, held⟩
    · simp [State.HoldsNaN, Unscaled, found, absent]
    · have shown : next.HoldsNaN entropyMetric ↔
          ((if base.isNaN then current else .float (base + entropyStep)).clampTo
            (some (.real kernel.entropyRange.1, .real kernel.entropyRange.2))).isNaN = true := by
        simp [State.HoldsNaN, held]
      have reads : kernel.Unscaled state ↔ kernel.entropyRange.1.isNaN = true ∧ base.isNaN = false := by
        simp [Unscaled, found, reckoned]
      rw [shown, reads, eq_self, true_and]
      by_cases lost : base.isNaN = true
      · have fine := clean.value found
        have other : current.number? = none := by
          rw [Option.eq_none_iff_forall_ne_some]
          intro number same
          rw [Value.isNaN_operand same reckoned, fine] at lost
          cases lost
        rw [if_pos lost, Value.clampTo_of_number? other, fine, lost]
        simp
      · have kept : base.isNaN = false := Bool.eq_false_iff.mpr lost
        rw [if_neg lost, Value.isNaN_clampTo rfl, kept, eq_self, and_true]
  · have same := agreeOff_disturb disturbed key (by simpa using entropy)
    simp only [State.HoldsNaN, same, entropy, false_and, iff_false]
    exact clean key

theorem holdsNaN_adopt (clean : state.Clean) (newState : Fields Value) (key : String) :
    (adopt state newState).HoldsNaN key ↔ Fields.has state key = true ∧
      ∃ value, Fields.get? newState.reverse key = some value ∧ value.isNaN = true := by
  unfold State.HoldsNaN Fields.has
  rw [get?_adopt]
  cases found : Fields.get? state key with
  | none => simp
  | some old =>
    have fine := clean.value found
    cases Fields.get? newState.reverse key <;> simp [fine]

/-- How a line brings what is not a number into a metric: the model says so, the entropy is raised on a scale
without a lower end, or a command makes infinities cancel. -/
inductive Admits (kernel : Kernel) (sources : Sources) (line : String) (state : State) (history : List Value)
    (operator : String) : String → Prop
  | proposed {proposal : Narrator.Proposal} {key : String} {value : Value} (free : kernel.IsFree sources line)
      (made : (kernel.consult sources.narrator line state history operator).1 = .ok proposal)
      (known : Fields.has state key = true) (said : Fields.get? proposal.newState.reverse key = some value)
      (lost : value.isNaN = true) : Admits kernel sources line state history operator key
  | unscaled {fault : FreeFault} (free : kernel.IsFree sources line)
      (failed : (kernel.consult sources.narrator line state history operator).1 = .error fault)
      (unscaled : kernel.Unscaled state) : Admits kernel sources line state history operator entropyMetric
  | cancelled {resolution : Resolution} {params : Fields Value} {next : State} {key : String}
      (plain : Text.leads State.overrideCommand line = false)
      (resolved : (Resolution.resolve kernel.catalog line sources.draws).1 = some resolution)
      (bound : resolution.outcome = .ok params)
      (applied : State.applyAll params state resolution.command.impact.changes = .ok next)
      (clashes : State.Clashes params key state resolution.command.impact.changes) :
      Admits kernel sources line state history operator key

/-- Whether a kernel turn completes and leaves a metric that is not a number. -/
def Leaves (outcome : Except Overflow Turn) (key : String) : Prop :=
  ∃ turn, outcome = .ok turn ∧ turn.state.HoldsNaN key

theorem leaves_runCommand (clean : state.Clean) (resolution : Resolution) (key : String) :
    Leaves (runCommand resolution state store).1 key ↔ ∃ params next, resolution.outcome = .ok params ∧
      State.applyAll params state resolution.command.impact.changes = .ok next ∧
      State.Clashes params key state resolution.command.impact.changes := by
  unfold runCommand Leaves
  cases bound : resolution.outcome with
  | error fault => simp [clean key]
  | ok params =>
    dsimp only
    cases applied : State.applyAll params state resolution.command.impact.changes with
    | error fault => simp [applied]
    | ok next =>
      have holds := State.holdsNaN_applyAll applied key
      simp [applied, holds, clean key]

theorem leaves_dissonance (clean : state.Clean) (reason key : String) :
    Leaves (kernel.dissonance state store reason) key ↔ key = entropyMetric ∧ kernel.Unscaled state := by
  unfold dissonance Leaves
  cases disturbed : kernel.disturb state with
  | error fault =>
    have scaled : ¬ kernel.Unscaled state := by
      intro unscaled
      obtain ⟨next, done⟩ := disturb_of_unscaled unscaled
      cases disturbed.symm.trans done
    simp [Except.map, scaled]
  | ok next => simp [Except.map, holdsNaN_disturb clean disturbed]

theorem leaves_interpretFreely (clean : state.Clean) (free : kernel.IsFree sources line) (key : String) :
    Leaves (kernel.interpretFreely sources line state store history operator).outcome key ↔
      kernel.Admits sources line state history operator key := by
  have unresolved : ∀ resolution, (Resolution.resolve kernel.catalog line sources.draws).1 ≠ some resolution := by
    intro resolution resolved
    cases resolved.symm.trans free.2
  unfold interpretFreely
  dsimp only
  cases consulted : (kernel.consult sources.narrator line state history operator).1 with
  | error fault =>
    dsimp only
    rw [leaves_dissonance clean]
    constructor
    · rintro ⟨rfl, unscaled⟩
      exact .unscaled free consulted unscaled
    · intro admits
      cases admits with
      | proposed _ made => cases consulted.symm.trans made
      | unscaled _ _ unscaled => exact ⟨rfl, unscaled⟩
      | cancelled _ resolved => exact absurd resolved (unresolved _)
  | ok proposal =>
    have holds := holdsNaN_adopt clean proposal.newState key
    simp only [Leaves, Except.ok.injEq, exists_eq_left', holds]
    constructor
    · rintro ⟨known, value, said, lost⟩
      exact .proposed free consulted known said lost
    · intro admits
      cases admits with
      | proposed _ made known said lost =>
        cases consulted.symm.trans made
        exact ⟨known, _, said, lost⟩
      | unscaled _ failed => cases consulted.symm.trans failed
      | cancelled _ resolved => exact absurd resolved (unresolved _)

theorem clean_stressTest (kernel : Kernel) (clean : state.Clean) (line : String) (store : Store) :
    State.Clean (kernel.stressTest line state store).state := by
  have kept := clean.override kernel.definitions line
  unfold stressTest
  generalize State.override kernel.definitions state line = made at kept ⊢
  exact kept

/-- From a state in which every number is one, a turn leaves what is not a number just where the line brings it. -/
theorem leaves_execute (clean : state.Clean) (input key : String) :
    Leaves (kernel.execute sources input state store history operator).outcome key ↔
      kernel.Admits sources (Text.strip input) state history operator key := by
  rcases kernel.route sources (Text.strip input) with forced | ⟨resolution, plain, resolved⟩ | free
  · rw [outcome_of_forced forced]
    have kept := clean_stressTest kernel clean (Text.strip input) store
    refine iff_of_false ?_ ?_
    · rintro ⟨turn, ran, holds⟩
      cases ran
      exact kept key holds
    · intro admits
      cases admits with
      | proposed free | unscaled free => cases forced.symm.trans free.1
      | cancelled plain => cases forced.symm.trans plain
  · rw [outcome_of_resolved plain resolved]
    refine (leaves_runCommand clean resolution key).trans ⟨?_, ?_⟩
    · rintro ⟨params, next, bound, applied, clashes⟩
      exact .cancelled plain resolved bound applied clashes
    · intro admits
      cases admits with
      | proposed free | unscaled free => cases resolved.symm.trans free.2
      | cancelled _ other bound applied clashes =>
        cases resolved.symm.trans other
        exact ⟨_, _, bound, applied, clashes⟩
  · rw [outcome_of_free free]
    exact leaves_interpretFreely clean free key

end Workbench.Kernel
