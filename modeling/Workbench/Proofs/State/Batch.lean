import Workbench.Proofs.State.Frame
import Workbench.Proofs.State.Range

namespace Workbench

theorem Value.fits_of_factor {value : Value} {found : Option Float} (made : value.factor = .ok found) : value.Fits := by
  cases value with
  | int n =>
    obtain ⟨x, reckoned, _⟩ := Except.map_eq_ok.mp made
    exact ⟨x, reckoned⟩
  | _ => exact ⟨_, rfl⟩

namespace StateChange

variable {change : StateChange} {params : Fields Value} {current : Value}

/-- The parameter that the multiplier of a change names, if it is bound. -/
def scale? (change : StateChange) (params : Fields Value) : Option Value :=
  (change.multiplier.filter (· != "")).bind (Fields.get? params)

/-- The literal of a change as a number. Without a literal it is zero. -/
def literal (change : StateChange) : Except Overflow Float :=
  match change.value with
  | some literal => literal.toValue.operand
  | none => .ok 0.0

theorem amount_eq (change : StateChange) (params : Fields Value) :
    change.amount params = change.literal >>= fun base => match change.scale? params with
      | none => .ok base
      | some param => param.factor >>= fun
        | some factor => .ok (base * factor)
        | none => .ok base := by
  unfold amount literal scale?
  cases change.value <;> rfl

/-- An amount can be reckoned just when its literal and the parameter that scales it are within range. -/
theorem amount_eq_ok : (∃ x, change.amount params = .ok x) ↔
    change.Fits ∧ ∀ param, change.scale? params = some param → param.Fits := by
  rw [amount_eq]
  constructor
  · rintro ⟨x, made⟩
    obtain ⟨base, reckoned, made⟩ := Except.bind_eq_ok.mp made
    refine ⟨?_, ?_⟩
    · intro literal given
      rw [StateChange.literal, given] at reckoned
      exact ⟨base, reckoned⟩
    · intro param scaled
      rw [scaled] at made
      obtain ⟨factor, found, _⟩ := Except.bind_eq_ok.mp made
      exact Value.fits_of_factor found
  · rintro ⟨fits, small⟩
    have first : ∃ base, change.literal = .ok base := by
      unfold literal
      cases given : change.value with
      | none => exact ⟨0.0, rfl⟩
      | some literal => exact fits literal given
    obtain ⟨base, reckoned⟩ := first
    rw [reckoned]
    cases scaled : change.scale? params with
    | none => exact ⟨base, rfl⟩
    | some param =>
      obtain ⟨factor, found⟩ := (small param scaled).factor
      cases factor <;> exact ⟨_, Except.bind_eq_ok.mpr ⟨_, rfl, Except.bind_eq_ok.mpr ⟨_, found, rfl⟩⟩⟩

/-- Whether a change on numbers meets a whole number that is out of range: its literal, the parameter that scales
it, or the value that it changes. -/
def Overreaches (change : StateChange) (params : Fields Value) (current : Value) : Prop :=
  change.worksOnText current = false ∧
    (¬ change.Fits ∨ (∃ param, change.scale? params = some param ∧ ¬ param.Fits) ∨ ¬ current.Fits)

/-- A change can be worked out on a value unless it overreaches. -/
theorem onValue_eq_ok : (∃ result, change.onValue params current = .ok result) ↔
    ¬ change.Overreaches params current := by
  unfold onValue Overreaches
  by_cases worded : change.worksOnText current = true
  · simp [worded]
  · have numeric : change.worksOnText current = false := by simpa using worded
    rw [if_neg worded]
    have within : (¬ (¬ change.Fits ∨ (∃ param, change.scale? params = some param ∧ ¬ param.Fits) ∨ ¬ current.Fits)) ↔
        (∃ x, change.amount params = .ok x) ∧ current.Fits := by
      rw [amount_eq_ok]
      push Not
      exact and_assoc.symm
    simp only [numeric, true_and, within]
    constructor
    · rintro ⟨result, worked⟩
      obtain ⟨delta, amounts, worked⟩ := Except.bind_eq_ok.mp worked
      obtain ⟨base, reckoned, _⟩ := Except.bind_eq_ok.mp worked
      exact ⟨⟨delta, amounts⟩, base, reckoned⟩
    · rintro ⟨⟨delta, amounts⟩, base, reckoned⟩
      simp only [onNumber, amounts, reckoned, bind, Except.bind, pure, Except.pure]
      split
      · exact ⟨none, rfl⟩
      · split <;> exact ⟨_, rfl⟩

/-- Whether the operand of a change can be written as a text: no whole number that goes into it has too many digits. A
template is rendered with all parameters at hand. -/
def isSpellable (change : StateChange) (params : Fields Value) : Bool :=
  match change.template.filter (· != "") with
  | some _ => Value.membersAreWritable params
  | none => (change.value.map fun literal => literal.toValue.isWritable).getD true

/-- Whether the operands of a change suit each other. In place of a value anything may be put; otherwise numbers
take no items, lists are no items, and arithmetic is done on numbers only. Operands out of range count as
numbers. -/
def isUsable (change : StateChange) (params : Fields Value) (current : Value) : Bool :=
  if change.worksOnText current then
    change.operator = .set || change.operator = .assign ||
      (current.number?.isNone && match change.item params with
        | .text _ => true
        | .texts _ => false)
  else match change.amount params, current.operand with
    | .ok delta, .ok base => !base.isNaN && !delta.isNaN
    | _, _ => true

/-- A change with unusable operands does not apply. -/
theorem onValue_of_unusable (unusable : change.isUsable params current = false) :
    change.onValue params current = .ok none := by
  unfold isUsable at unusable
  unfold onValue
  by_cases worded : change.worksOnText current = true
  · rw [if_pos worded] at unusable ⊢
    unfold onText
    cases operation : change.operator <;> cases given : change.item params <;>
      simp_all
  · rw [if_neg worded] at unusable ⊢
    unfold onNumber
    cases amounts : change.amount params with
    | error fault => simp [amounts] at unusable
    | ok delta =>
      cases reckoned : current.operand with
      | error fault => simp [amounts, reckoned] at unusable
      | ok base =>
        have lost : (base.isNaN || delta.isNaN) = true := by
          simp only [amounts, reckoned] at unusable
          revert unusable
          cases base.isNaN <;> cases delta.isNaN <;> simp
        simp only [bind, Except.bind]
        rw [if_pos lost]
        rfl

/-- A change that does not contradict itself takes steps on numbers only, and words are for text and lists. -/
theorem operator_of_accepted (accepted : change.contradiction? = none) (current : Value) :
    if change.worksOnText current then change.operator.isStep = false else change.operator.isWord = false := by
  unfold contradiction? at accepted
  unfold worksOnText isQualitative
  cases declared : change.type with
  | none =>
    cases operation : change.operator with
    | assign => simp only [Operator.isStep, Operator.isWord, ite_self]
    | increase | decrease | set | add | remove => simp [Operator.isStep, Operator.isWord]
  | some type =>
    cases type with
    | qualitative =>
      cases operation : change.operator <;> simp_all [Operator.isStep]
    | numerical =>
      cases operation : change.operator <;> simp_all [Operator.isStep, Operator.isWord]

/-- A change with usable operands gives a value, if it can be worked out. -/
theorem onValue_of_usable (accepted : change.contradiction? = none) (usable : change.isUsable params current = true)
    {result : Option Value} (worked : change.onValue params current = .ok result) :
    ∃ value, result = some value := by
  have suits := operator_of_accepted accepted current
  unfold isUsable at usable
  unfold onValue at worked
  by_cases worded : change.worksOnText current = true
  · rw [if_pos worded] at usable suits worked
    cases worked
    unfold onText
    cases operation : change.operator <;> cases given : change.item params <;>
      simp_all [Operator.isStep]
  · rw [if_neg worded] at usable suits worked
    obtain ⟨delta, amounts, worked⟩ := Except.bind_eq_ok.mp worked
    obtain ⟨base, reckoned, worked⟩ := Except.bind_eq_ok.mp worked
    have numbers : ¬ (base.isNaN || delta.isNaN) = true := by
      simp only [amounts, reckoned] at usable
      revert usable
      cases base.isNaN <;> cases delta.isNaN <;> simp
    rw [if_neg numbers] at worked
    cases operation : change.operator with
    | increase | decrease | assign =>
      rw [operation] at worked
      cases worked
      exact ⟨_, rfl⟩
    | set | add | remove => simp [operation, Operator.isWord] at suits

end StateChange

namespace State

variable {params : Fields Value} {state next : State} {change : StateChange}

/-- Why a change is skipped. -/
inductive Skip where
  | unmetCondition
  | unknownMetric
  | unusableOperand
  deriving DecidableEq

/-- Whether a change is skipped, and why. -/
def skip? (params : Fields Value) (state : State) (change : StateChange) : Option Skip :=
  if change.isDue params then
    match Fields.get? state change.metric with
    | none => some .unknownMetric
    | some current => if change.isUsable params current then none else some .unusableOperand
  else some .unmetCondition

/-- What is left of a batch when the changes that are skipped are taken out. -/
def heeded (params : Fields Value) : State → List StateChange → List StateChange
  | _, [] => []
  | state, change :: rest =>
    if (skip? params state change).isSome then heeded params state rest
    else match apply params state change with
      | .ok next => change :: heeded params next rest
      | .error _ => change :: rest

/-- Whether a change is due and overreaches on the value of its metric. -/
def Halts (params : Fields Value) (state : State) (change : StateChange) : Prop :=
  change.isDue params = true ∧
    ∃ current, Fields.get? state change.metric = some current ∧ change.Overreaches params current

/-- Whether a batch comes to a change that overreaches. -/
inductive Stops (params : Fields Value) : State → List StateChange → Prop
  | now {state : State} {change : StateChange} {rest : List StateChange} (halts : Halts params state change) :
      Stops params state (change :: rest)
  | later {state next : State} {change : StateChange} {rest : List StateChange}
      (applied : apply params state change = .ok next) (stops : Stops params next rest) :
      Stops params state (change :: rest)

/-- Whether every text that a batch comes to write out can be written. -/
def spells (params : Fields Value) : State → List StateChange → Bool
  | _, [] => true
  | state, change :: rest =>
    (match Fields.get? state change.metric with
      | some current => !(change.isDue params && change.worksOnText current) || change.isSpellable params
      | none => true) &&
    match apply params state change with
    | .ok next => spells params next rest
    | .error _ => true

/-- Whether every change of a batch is due and puts a value into its metric, up to one that overreaches. -/
inductive Carried (params : Fields Value) : State → List StateChange → Prop
  | nil {state : State} : Carried params state []
  | halted {state : State} {change : StateChange} {rest : List StateChange} (halts : Halts params state change) :
      Carried params state (change :: rest)
  | cons {state : State} {change : StateChange} {rest : List StateChange} {current value : Value}
      (due : change.isDue params = true) (found : Fields.get? state change.metric = some current)
      (worked : change.onValue params current = .ok (some value))
      (carried : Carried params (Fields.update state change.metric value) rest) :
      Carried params state (change :: rest)

theorem apply_of_skip (skipped : (skip? params state change).isSome = true) :
    apply params state change = .ok state := by
  unfold skip? at skipped
  unfold apply
  by_cases due : change.isDue params = true
  · rw [if_pos due] at skipped ⊢
    cases found : Fields.get? state change.metric with
    | none => rfl
    | some current =>
      rw [found] at skipped
      by_cases usable : change.isUsable params current = true
      · simp [usable] at skipped
      · simp only [StateChange.onValue_of_unusable (by simpa using usable), Except.map]
  · rw [if_neg due]

theorem apply_eq_ok : (∃ next, apply params state change = .ok next) ↔ ¬ Halts params state change := by
  unfold apply Halts
  by_cases due : change.isDue params = true
  · cases found : Fields.get? state change.metric with
    | none => simp [due]
    | some current =>
      simp only [due, if_true, true_and, Option.some.injEq, exists_eq_left', ← StateChange.onValue_eq_ok,
        Except.map_eq_ok]
      exact ⟨fun ⟨_, result, worked, _⟩ => ⟨result, worked⟩, fun ⟨result, worked⟩ => ⟨_, result, worked, rfl⟩⟩
  · simp [due]

theorem halts_of_fault {fault : Overflow} (broke : apply params state change = .error fault) :
    Halts params state change := by
  by_contra unhalted
  obtain ⟨next, applied⟩ := apply_eq_ok.mpr unhalted
  cases broke.symm.trans applied

/-- A change that is not skipped puts a value into its metric, unless it overreaches. -/
theorem apply_of_heeded (accepted : change.contradiction? = none) (kept : skip? params state change = none)
    (applied : apply params state change = .ok next) :
    change.isDue params = true ∧ ∃ current value, Fields.get? state change.metric = some current ∧
      change.onValue params current = .ok (some value) ∧ next = Fields.update state change.metric value := by
  unfold skip? at kept
  unfold apply at applied
  by_cases due : change.isDue params = true
  · rw [if_pos due] at kept applied
    cases found : Fields.get? state change.metric with
    | none => simp [found] at kept
    | some current =>
      rw [found] at kept applied
      obtain ⟨result, worked, same⟩ := Except.map_eq_ok.mp applied
      have usable : change.isUsable params current = true := by
        by_contra unusable
        simp [unusable] at kept
      obtain ⟨value, rfl⟩ := StateChange.onValue_of_usable accepted usable worked
      exact ⟨due, current, value, rfl, worked, same.symm⟩
  · simp [due] at kept

/-- The changes that are skipped leave no trace. -/
theorem applyAll_heeded (params : Fields Value) (state : State) (changes : List StateChange) :
    applyAll params state (heeded params state changes) = applyAll params state changes := by
  induction changes generalizing state with
  | nil => rfl
  | cons change rest ih =>
    unfold heeded
    by_cases skipped : (skip? params state change).isSome = true
    · rw [if_pos skipped, ih, applyAll, apply_of_skip skipped]
    · rw [if_neg skipped]
      cases applied : apply params state change with
      | error fault => rfl
      | ok next => simp only [applyAll, applied, ih]

/-- All other changes are carried out. -/
theorem carried_heeded {changes : List StateChange} (accepted : ∀ change ∈ changes, change.contradiction? = none)
    (params : Fields Value) (state : State) : Carried params state (heeded params state changes) := by
  induction changes generalizing state with
  | nil => exact .nil
  | cons change rest ih =>
    obtain ⟨own, others⟩ := List.forall_mem_cons.mp accepted
    unfold heeded
    by_cases skipped : (skip? params state change).isSome = true
    · rw [if_pos skipped]
      exact ih others state
    · rw [if_neg skipped]
      cases applied : apply params state change with
      | error fault => exact .halted (halts_of_fault applied)
      | ok next =>
        have kept : skip? params state change = none := by simpa using skipped
        obtain ⟨due, current, value, found, worked, rfl⟩ := apply_of_heeded own kept applied
        exact .cons due found worked (ih others _)

theorem stops_cons {rest : List StateChange} : Stops params state (change :: rest) ↔
    Halts params state change ∨ ∃ next, apply params state change = .ok next ∧ Stops params next rest := by
  constructor
  · intro stops
    cases stops with
    | now halts => exact Or.inl halts
    | later applied stops => exact Or.inr ⟨_, applied, stops⟩
  · rintro (halts | ⟨next, applied, stops⟩)
    · exact .now halts
    · exact .later applied stops

/-- A batch gives a state unless it comes to a change that overreaches. -/
theorem applyAll_eq_ok {changes : List StateChange} :
    (∃ next, applyAll params state changes = .ok next) ↔ ¬ Stops params state changes := by
  induction changes generalizing state with
  | nil => exact iff_of_true ⟨state, rfl⟩ nofun
  | cons change rest ih =>
    rw [stops_cons]
    cases applied : apply params state change with
    | error fault => simp [applyAll, applied, halts_of_fault applied]
    | ok next =>
      have unhalted := apply_eq_ok.mp ⟨next, applied⟩
      simp [applyAll, applied, unhalted, ih]

/-- In a batch of accepted changes those that are skipped leave no trace and all others are carried out; and it
gives a state unless it comes to a change with an operand out of range. This is said of batches that can write out
their texts: a whole number of too many digits ends a batch as well. -/
theorem batch_goes_on_iff {changes : List StateChange} (accepted : ∀ change ∈ changes, change.contradiction? = none)
    (params : Fields Value) (state : State) :
    spells params state changes = true →
      applyAll params state (heeded params state changes) = applyAll params state changes ∧
      Carried params state (heeded params state changes) ∧
      ((∃ next, applyAll params state changes = .ok next) ↔ ¬ Stops params state changes) :=
  fun _ => ⟨applyAll_heeded params state changes, carried_heeded accepted params state, applyAll_eq_ok⟩

/-- A step of one on a metric, taken if a flag is set. -/
def stepOn (metric : String) (condition : Option String) : StateChange :=
  ⟨metric, .increase, some (.float 1.0), none, condition, none, none⟩

/-- A step under a flag that is not set, one on a metric that is not there, one on a text, and one that is taken. -/
def mixedBatch : List StateChange :=
  [stepOn "heat" (some "--deep"), stepOn "ghost" none, stepOn "mood" none, stepOn "heat" none]

def calmState : State := [("heat", .float 0.0), ("mood", .text "calm")]

theorem batch_goes_on_mixed :
    (∀ change ∈ mixedBatch, change.contradiction? = none) ∧ spells [] calmState mixedBatch = true ∧
      mixedBatch.map (skip? [] calmState) =
        [some .unmetCondition, some .unknownMetric, some .unusableOperand, none] ∧
      applyAll [] calmState (heeded [] calmState mixedBatch) = applyAll [] calmState mixedBatch ∧
      Carried [] calmState (heeded [] calmState mixedBatch) ∧
      ((∃ next, applyAll [] calmState mixedBatch = .ok next) ↔ ¬ Stops [] calmState mixedBatch) := by
  have accepted : ∀ change ∈ mixedBatch, change.contradiction? = none := by decide
  have spelled : spells [] calmState mixedBatch = true := by decide +kernel
  exact ⟨accepted, spelled, by decide +kernel, batch_goes_on_iff accepted [] calmState spelled⟩

/-- A step by a whole number out of range. -/
def vastStep : StateChange :=
  ⟨"heat", .increase, some (.int (10 ^ 309)), none, none, none, none⟩

/-- Such a step is accepted, and the batch that it stands in ends with it. -/
theorem vast_step_stops_batch :
    Schema.change (.object [("metric", .text "heat"), ("operator", .text "+="), ("value", .int (10 ^ 309))]) =
        .valid vastStep ∧
      applyAll [] calmState [vastStep, stepOn "heat" none] = .error {} ∧
      applyAll [] calmState [stepOn "heat" none] = .ok [("heat", .float 1.0), ("mood", .text "calm")] := by
  refine ⟨rfl, ?_, ?_⟩
  · decide +kernel
  · decide +kernel

end State

end Workbench
