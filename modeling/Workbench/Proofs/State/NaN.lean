import Workbench.Proofs.Decimal.NaN
import Workbench.Proofs.State.Frame
import Workbench.Proofs.State.Range

namespace Workbench

/-- Whether a value is the floating point number that is none. -/
def Value.isNaN : Value → Bool
  | .float x => x.isNaN
  | _ => false

theorem Value.isNaN_toValue (number : Number) : number.toValue.isNaN = number.isNaN := by
  cases number <;> rfl

theorem Value.isNaN_operand {value : Value} {number : Number} {base : Float} (found : value.number? = some number)
    (reckoned : value.operand = .ok base) : base.isNaN = value.isNaN := by
  cases value with
  | int n => exact Number.isNaN_ofWhole reckoned
  | float x =>
    cases reckoned
    rfl
  | _ => cases found

theorem Content.isNaN_toValue (content : Content) : content.toValue.isNaN = false := by
  cases content <;> rfl

namespace StateChange

variable {change : StateChange} {params : Fields Value} {current : Value} {result : Option Value}

/-- Whether a change puts a text or a list where a number is. -/
def Replaces (change : StateChange) : Prop :=
  change.isQualitative = true ∧ (change.operator = .set ∨ change.operator = .assign)

/-- Whether an operator makes two infinities into what is not a number: it adds opposite ones, or takes one from
itself. -/
def Cancels (operator : Operator) (base delta : Float) : Prop :=
  operator = .increase ∧ base ≠ delta ∨ operator = .decrease ∧ base = delta

/-- Whether a change on numbers makes infinities cancel. -/
def Clashes (change : StateChange) (params : Fields Value) (current : Value) : Prop :=
  change.worksOnText current = false ∧ ∃ base delta, current.operand = .ok base ∧
    change.amount params = .ok delta ∧ base.isInf = true ∧ delta.isInf = true ∧ Cancels change.operator base delta

theorem worksOnText_of_number (numeric : current.number?.isSome = true) :
    change.worksOnText current = change.isQualitative := by
  cases current with
  | int n | float x =>
    unfold worksOnText isQualitative
    cases change.type <;> cases change.operator <;> rfl
  | _ => cases numeric

theorem isNaN_onText {value : Value} (applied : change.onText params current = some value) : value.isNaN = false := by
  unfold onText at applied
  split at applied
  · cases applied
    exact Content.isNaN_toValue _
  · cases applied
    exact Content.isNaN_toValue _
  · cases applied
  · split at applied
    · cases applied
    · split at applied <;> cases applied <;> rfl

/-- On a number, text and lists are only put in its place. -/
theorem onText_float (change : StateChange) (params : Fields Value) (x : Float) :
    (change.onText params (.float x)).isSome = true ↔ change.operator = .set ∨ change.operator = .assign := by
  unfold onText
  cases change.operator <;> cases change.item params <;> simp [Value.number?]

/-- What is not a number stays unless a change replaces it. -/
theorem onValue_of_isNaN (lost : current.isNaN = true) (applied : change.onValue params current = .ok result) :
    (result.getD current).isNaN = true ↔ ¬ change.Replaces := by
  cases current with
  | float x =>
    unfold onValue at applied
    rw [worksOnText_of_number rfl] at applied
    by_cases qualitative : change.isQualitative = true
    · rw [if_pos qualitative] at applied
      cases applied
      have placed := change.onText_float params x
      cases made : change.onText params (.float x) with
      | none =>
        rw [made] at placed
        have kept : ¬ change.Replaces := fun replaces => Bool.false_ne_true (placed.mpr replaces.2)
        exact iff_of_true lost kept
      | some value =>
        rw [made] at placed
        have found : value.isNaN = false := isNaN_onText made
        exact iff_of_false (by simp [found]) fun kept => kept ⟨qualitative, placed.mp rfl⟩
    · rw [if_neg qualitative] at applied
      obtain ⟨delta, _, applied⟩ := Except.bind_eq_ok.mp applied
      obtain ⟨base, reckoned, applied⟩ := Except.bind_eq_ok.mp applied
      cases reckoned
      have skipped : (x.isNaN || delta.isNaN) = true := by rw [show x.isNaN = true from lost, Bool.true_or]
      rw [if_pos skipped] at applied
      cases applied
      exact iff_of_true lost fun replaces => qualitative replaces.1
  | _ => cases lost

/-- Arithmetic on numbers gives what is no number only where infinities cancel. -/
theorem onNumber_of_not_isNaN (fine : current.isNaN = false) (applied : change.onNumber params current = .ok result) :
    (result.getD current).isNaN = true ↔ ∃ base delta, current.operand = .ok base ∧
      change.amount params = .ok delta ∧ base.isInf = true ∧ delta.isInf = true ∧
      Cancels change.operator base delta := by
  obtain ⟨delta, amounts, applied⟩ := Except.bind_eq_ok.mp applied
  obtain ⟨base, reckoned, applied⟩ := Except.bind_eq_ok.mp applied
  have only : (∃ other factor, current.operand = .ok other ∧ change.amount params = .ok factor ∧
      other.isInf = true ∧ factor.isInf = true ∧ Cancels change.operator other factor) ↔
      base.isInf = true ∧ delta.isInf = true ∧ Cancels change.operator base delta := by
    constructor
    · rintro ⟨other, factor, same, alike, meets⟩
      cases reckoned.symm.trans same
      cases amounts.symm.trans alike
      exact meets
    · exact fun meets => ⟨base, delta, reckoned, amounts, meets⟩
  rw [only]
  by_cases lost : (base.isNaN || delta.isNaN) = true
  · rw [if_pos lost] at applied
    cases applied
    refine iff_of_false (by simp [fine]) ?_
    rintro ⟨vast, wide, _⟩
    rw [Float.isNaN_of_isInf vast, Float.isNaN_of_isInf wide] at lost
    cases lost
  · rw [if_neg lost] at applied
    simp only [Bool.or_eq_true, not_or, Bool.not_eq_true] at lost
    obtain ⟨left, right⟩ := lost
    cases operation : change.operator with
    | increase =>
      rw [operation] at applied
      cases applied
      exact (Float.isNaN_add left right).trans (by simp [Cancels])
    | decrease =>
      rw [operation] at applied
      cases applied
      refine (Float.isNaN_sub left right).trans ⟨?_, ?_⟩
      · rintro ⟨vast, rfl⟩
        exact ⟨vast, vast, Or.inr ⟨rfl, rfl⟩⟩
      · rintro ⟨vast, _, ⟨⟨⟩, _⟩ | ⟨_, same⟩⟩
        exact ⟨vast, same⟩
    | assign =>
      rw [operation] at applied
      cases applied
      exact iff_of_false (Bool.eq_false_iff.mp right) (by simp [Cancels])
    | set | add | remove =>
      rw [operation] at applied
      cases applied
      exact iff_of_false (by simp [fine]) (by simp [Cancels])

/-- A change leaves what is not a number in its place unless it replaces it, and makes it only where infinities
cancel. -/
theorem isNaN_onValue (applied : change.onValue params current = .ok result) :
    (result.getD current).isNaN = true ↔
      current.isNaN = true ∧ ¬ change.Replaces ∨ change.Clashes params current := by
  by_cases lost : current.isNaN = true
  · have unclashed : ¬ change.Clashes params current := by
      rintro ⟨_, base, _, reckoned, _, vast, _⟩
      cases current with
      | float x =>
        cases reckoned
        cases (Float.isNaN_of_isInf vast).symm.trans lost
      | _ => cases lost
    rw [onValue_of_isNaN lost applied]
    simp [lost, unclashed]
  · have fine : current.isNaN = false := by simpa using lost
    unfold onValue at applied
    by_cases worded : change.worksOnText current = true
    · rw [if_pos worded] at applied
      cases applied
      have kept : ((change.onText params current).getD current).isNaN = false := by
        cases made : change.onText params current with
        | none => exact fine
        | some value => exact isNaN_onText made
      simp [kept, fine, Clashes, worded]
    · rw [if_neg worded] at applied
      have numeric : change.worksOnText current = false := by simpa using worded
      rw [onNumber_of_not_isNaN fine applied]
      simp [fine, Clashes, numeric]

/-- Whether a change names a metric and is due. -/
def Reaches (change : StateChange) (params : Fields Value) (key : String) : Prop :=
  change.metric = key ∧ change.isDue params = true

end StateChange

namespace State

variable {params : Fields Value} {state next : State}

/-- Whether a metric has a value that is not a number. -/
def HoldsNaN (state : State) (key : String) : Prop :=
  ∃ value, Fields.get? state key = some value ∧ value.isNaN = true

/-- Whether no metric has such a value. -/
def Clean (state : State) : Prop := ∀ key, ¬ state.HoldsNaN key

theorem Clean.value (clean : state.Clean) {key : String} {value : Value}
    (found : Fields.get? state key = some value) : value.isNaN = false := by
  by_contra lost
  exact clean key ⟨value, found, by simpa using lost⟩

/-- Whether a metric's infinity is cancelled by a change, and nothing is put in its place by the changes that
follow. -/
inductive Clashes (params : Fields Value) (key : String) : State → List StateChange → Prop
  | now {state : State} {change : StateChange} {rest : List StateChange} {current : Value}
      (reaches : change.Reaches params key) (found : Fields.get? state key = some current)
      (clashes : change.Clashes params current)
      (stays : ∀ later ∈ rest, later.Reaches params key → ¬ later.Replaces) : Clashes params key state (change :: rest)
  | later {state next : State} {change : StateChange} {rest : List StateChange}
      (applied : State.apply params state change = .ok next) (clashes : Clashes params key next rest) :
      Clashes params key state (change :: rest)

theorem get?_of_unreached {change : StateChange} (applied : State.apply params state change = .ok next) {key : String}
    (unreached : ¬ change.Reaches params key) : Fields.get? next key = Fields.get? state key := by
  by_cases named : change.metric = key
  · have still : ¬ change.isDue params = true := fun due => unreached ⟨named, due⟩
    rw [apply_eq, StateChange.effect, if_neg still] at applied
    cases applied
    rfl
  · exact agreeOff_apply applied key (by simpa using Ne.symm named)

theorem holdsNaN_apply {change : StateChange} (applied : State.apply params state change = .ok next) (key : String) :
    next.HoldsNaN key ↔ state.HoldsNaN key ∧ (change.Reaches params key → ¬ change.Replaces) ∨
      change.Reaches params key ∧ ∃ current, Fields.get? state key = some current ∧ change.Clashes params current := by
  by_cases reaches : change.Reaches params key
  · obtain ⟨rfl, due⟩ := reaches
    have reaches : change.Reaches params change.metric := ⟨rfl, due⟩
    rcases apply_cases applied due with ⟨found, rfl⟩ | ⟨current, result, found, worked, value⟩
    · simp [HoldsNaN, found]
    · simp [HoldsNaN, value, found, StateChange.isNaN_onValue worked, reaches]
  · have same := get?_of_unreached applied reaches
    simp [HoldsNaN, same, reaches]

theorem clashes_cons {change : StateChange} {rest : List StateChange}
    (applied : State.apply params state change = .ok next) {key : String} :
    Clashes params key state (change :: rest) ↔
      (change.Reaches params key ∧ ∃ current, Fields.get? state key = some current ∧ change.Clashes params current) ∧
        (∀ later ∈ rest, later.Reaches params key → ¬ later.Replaces) ∨ Clashes params key next rest := by
  constructor
  · intro clashes
    cases clashes with
    | now reaches found clashes stays => exact Or.inl ⟨⟨reaches, _, found, clashes⟩, stays⟩
    | later other clashes =>
      cases applied.symm.trans other
      exact Or.inr clashes
  · rintro (⟨⟨reaches, current, found, clashes⟩, stays⟩ | clashes)
    · exact .now reaches found clashes stays
    · exact .later applied clashes

/-- Changes leave a metric without a number just when it had none and nothing was put in its place, or when they
cancel an infinity. -/
theorem holdsNaN_applyAll {changes : List StateChange} (applied : State.applyAll params state changes = .ok next)
    (key : String) :
    next.HoldsNaN key ↔ state.HoldsNaN key ∧ (∀ change ∈ changes, change.Reaches params key → ¬ change.Replaces) ∨
      Clashes params key state changes := by
  induction changes generalizing state with
  | nil =>
    cases applied
    have never : ¬ Clashes params key next [] := by rintro ⟨⟩
    simp [never]
  | cons change rest ih =>
    cases first : State.apply params state change with
    | error fault =>
      rw [State.applyAll, first] at applied
      cases applied
    | ok middle =>
      rw [State.applyAll, first] at applied
      rw [ih applied, holdsNaN_apply first, clashes_cons first, List.forall_mem_cons, or_and_right,
        and_assoc, or_assoc]

theorem Clean.update (clean : state.Clean) {key : String} {value : Value} (found : value.isNaN = false) :
    State.Clean (Fields.update state key value) := by
  rintro other ⟨held, there, lost⟩
  rw [Fields.get?_update] at there
  by_cases same : key = other
  · rw [if_pos same] at there
    obtain ⟨_, _, rfl⟩ := Option.map_eq_some_iff.mp there
    exact Bool.false_ne_true (found.symm.trans lost)
  · rw [if_neg same] at there
    exact clean other ⟨held, there, lost⟩

theorem isNaN_overrideValue? {definitions : List Definition} {key raw : String} {value : Value}
    (made : overrideValue? definitions key raw = some value) : value.isNaN = false := by
  unfold overrideValue? at made
  split at made
  · obtain ⟨x, read, rfl⟩ := Option.map_eq_some_iff.mp made
    have kept := (Option.filter_eq_some_iff.mp read).2
    rw [Bool.not_eq_true'] at kept
    exact kept
  · cases made
    rfl

theorem Clean.override (clean : state.Clean) (definitions : List Definition) (line : String) :
    State.Clean (State.override definitions state line).1 :=
  override_induction clean fun _ _ _ _ _ _ _ made kept => kept.update (isNaN_overrideValue? made)

end State

theorem Value.clampTo_of_number? {value : Value} (other : value.number? = none) (range : Option (Number × Number)) :
    value.clampTo range = value := by
  unfold Value.clampTo
  rw [other]
  cases range <;> rfl

theorem Value.isNaN_clampTo {value : Value} {number : Number} (found : value.number? = some number)
    (low high : Float) : (value.clampTo (some (.real low, .real high))).isNaN = low.isNaN := by
  unfold Value.clampTo
  rw [found]
  exact (Value.isNaN_toValue _).trans (Number.isNaN_clamp _ _ _)

end Workbench
