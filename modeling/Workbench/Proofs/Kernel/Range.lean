import Workbench.Proofs.Catalog.Coverage
import Workbench.Proofs.State.Range

namespace Workbench

/-- Whether all draws can be reckoned with. -/
def Draws.Fit (draws : Draws) : Prop := ∀ n ∈ draws.script, (Value.int n).Fits

theorem Draws.Fit.next {draws : Draws} (fit : draws.Fit) {low : Int} (small : (Value.int low).Fits) :
    (Value.int (draws.next low).1).Fits ∧ (draws.next low).2.Fit := by
  obtain ⟨script⟩ := draws
  cases script with
  | nil => exact ⟨small, fit⟩
  | cons n rest => exact ⟨fit n List.mem_cons_self, fun m member => fit m (List.mem_cons_of_mem n member)⟩

namespace Resolution

theorem fit_bindPositional {names args : List String} {given params : Fields Value} (fit : given.Fit)
    (bound : bindPositional names args given = .ok params) : params.Fit := by
  induction names generalizing args given with
  | nil =>
    cases bound
    exact fit
  | cons name rest ih =>
    cases args with
    | nil => cases bound
    | cons arg later => exact ih (fit.put ⟨_, rfl⟩) bound

theorem fit_bindFlags {params : Fields Value} (fit : params.Fit) (flags : List String) :
    (flags.foldl bindFlag params).Fit := by
  induction flags generalizing params with
  | nil => exact fit
  | cons flag rest ih =>
    refine ih ?_
    unfold bindFlag
    split
    · exact fit
    · exact fit.put ⟨_, rfl⟩

theorem fit_bindGenerated {generated : List (String × Int × Int)} {params : Fields Value} {draws : Draws}
    (small : ∀ entry ∈ generated, (Value.int entry.2.1).Fits) (fit : params.Fit) (drawn : draws.Fit) :
    (bindGenerated generated params draws).1.Fit ∧ (bindGenerated generated params draws).2.Fit := by
  induction generated generalizing params draws with
  | nil => exact ⟨fit, drawn⟩
  | cons entry rest ih =>
    obtain ⟨fits, left⟩ := drawn.next (small entry List.mem_cons_self)
    exact ih (fun other member => small other (List.mem_cons_of_mem entry member)) (fit.put fits) left

theorem small_generatedParams (signature : String) :
    ∀ entry ∈ generatedParams signature, (Value.int entry.2.1).Fits := by
  unfold generatedParams
  split
  · intro entry member
    cases List.mem_singleton.mp member
    exact ⟨1.0, by decide⟩
  · exact List.forall_mem_nil _

theorem fit_bind {utility : Utility} {command : Command} {args : List String} {draws : Draws} (drawn : draws.Fit) :
    (bind utility command args draws).2.Fit ∧
      ∀ params, (bind utility command args draws).1.outcome = .ok params → params.Fit := by
  unfold bind
  split
  · exact ⟨drawn, by rintro _ ⟨⟩⟩
  · rename_i positional bound
    have flagged := fit_bindFlags (fit_bindPositional Fields.fit_nil bound) (args.filter isFlag)
    obtain ⟨fit, left⟩ := fit_bindGenerated (small_generatedParams utility.signature) flagged drawn
    exact ⟨left, by rintro _ ⟨⟩; exact fit⟩

/-- The parameters of a resolved line are texts, flags and draws. -/
theorem fit_resolve {catalog : Option Catalog} {line : String} {draws left : Draws} {resolved : Option Resolution}
    (made : resolve catalog line draws = (resolved, left)) (drawn : draws.Fit) :
    left.Fit ∧ ∀ resolution params, resolved = some resolution → resolution.outcome = .ok params → params.Fit := by
  unfold resolve at made
  split at made
  · split at made
    · rename_i utility command args _
      cases made
      obtain ⟨kept, fit⟩ := @fit_bind utility command args draws drawn
      exact ⟨kept, by rintro _ params ⟨⟩ bound; exact fit params bound⟩
    · cases made
      exact ⟨drawn, by rintro _ _ ⟨⟩⟩
  · cases made
    exact ⟨drawn, by rintro _ _ ⟨⟩⟩

end Resolution

/-- Whether a reply of the model proposes no whole number that is out of range. What makes no proposal may say
what it likes. -/
def ModelReply.Fits (reply : ModelReply) : Prop :=
  ∀ items text proposal, reply = .output items → Narrator.outputText items = .ok text →
    Narrator.proposalOf text = .ok proposal → ∀ entry ∈ proposal.newState, entry.2.Fits

def Narrator.Fits (narrator : Narrator) : Prop := ∀ reply ∈ narrator.replies, reply.Fits

/-- Whether nothing that a kernel draws on brings a whole number that is out of range. -/
structure Sources.Fit (sources : Sources) : Prop where
  narrator : ∀ narrator, sources.narrator = some narrator → narrator.Fits
  draws : sources.draws.Fit

namespace Narrator

variable {narrator : Narrator}

theorem Fits.ask (fits : narrator.Fits) (messages : List ModelMessage) (wantsJson : Bool) :
    (narrator.ask messages wantsJson).2.Fits ∧ ∀ text, (narrator.ask messages wantsJson).1 = .ok text →
      ∃ items, (ModelReply.output items).Fits ∧ outputText items = .ok text := by
  refine ⟨?_, ?_⟩
  · have later : (narrator.ask messages wantsJson).2.replies = narrator.replies.tail := by
      unfold Narrator.ask
      dsimp only
      split <;> rfl
    intro reply member
    rw [later] at member
    exact fits reply (List.mem_of_mem_tail member)
  · intro text told
    unfold Narrator.ask at told
    dsimp only at told
    split at told
    · cases told
    · cases told
    · rename_i items rest script
      refine ⟨items, fits _ ?_, told⟩
      rw [script]
      exact List.mem_cons_self

theorem Fits.interpret (fits : narrator.Fits) (system : String) (history : List Value) :
    (narrator.interpret system history).2.Fits ∧
      ∀ proposal, (narrator.interpret system history).1 = .ok proposal →
        ∀ entry ∈ proposal.newState, entry.2.Fits := by
  unfold Narrator.interpret
  split
  · exact ⟨fits, by rintro _ ⟨⟩⟩
  · rename_i turns _
    dsimp only
    obtain ⟨kept, told⟩ := fits.ask
      (⟨"system", Text.strip system ++ "\n\n" ++ jsonContract⟩ :: turns) true
    refine ⟨kept, ?_⟩
    intro proposal made
    obtain ⟨text, answered, read⟩ := Except.bind_eq_ok.mp made
    obtain ⟨items, small, spoken⟩ := told text answered
    exact small items text proposal rfl spoken read

end Narrator

/-- Whether no literal of a kernel's catalog is out of range. -/
def Kernel.Fits (kernel : Kernel) : Prop :=
  ∀ catalog, kernel.catalog = some catalog → ∀ change ∈ catalog.changes, change.Fits

namespace Kernel

variable {kernel : Kernel} {state : State}

theorem fit_adopt (fit : Fields.Fit state) {newState : Fields Value} (small : ∀ entry ∈ newState, entry.2.Fits) :
    Fields.Fit (adopt state newState) := by
  unfold adopt
  induction newState generalizing state with
  | nil => exact fit
  | cons entry rest ih =>
    exact ih (fit.update (small entry List.mem_cons_self))
      fun other member => small other (List.mem_cons_of_mem entry member)

theorem fits_entropyBump : entropyBump.Fits := by
  intro literal same
  cases same
  exact ⟨_, rfl⟩

theorem fit_disturb (kernel : Kernel) (fit : Fields.Fit state) :
    ∃ next, kernel.disturb state = .ok next ∧ Fields.Fit next := by
  obtain ⟨raised, applied, small⟩ := State.fit_apply fit fits_entropyBump Fields.fit_nil
  simp only [disturb, applied, Except.map]
  refine ⟨_, rfl, ?_⟩
  split
  · exact small
  · rename_i value found
    exact small.update ((small _ _ found).clampTo _ _)

/-- An entropy that is out of range cannot be raised. -/
theorem disturb_of_overflow (kernel : Kernel) {n : Int} {fault : Overflow}
    (found : Fields.get? state entropyMetric = some (.int n)) (vast : (Value.int n).operand = .error fault) :
    kernel.disturb state = .error fault := by
  obtain ⟨delta, made⟩ := fits_entropyBump.amount Fields.fit_nil
  have due : entropyBump.isDue [] = true := rfl
  have numeric : entropyBump.worksOnText (.int n) = false := rfl
  have failed : entropyBump.onValue [] (.int n) = .error fault := by
    simp only [StateChange.onValue, numeric, StateChange.onNumber, made, vast, bind, Except.bind]
    rfl
  have metric : Fields.get? state entropyBump.metric = some (.int n) := found
  simp only [disturb, State.apply, due, metric, failed, if_true, Except.map]

/-- What a kernel turn comes to when nothing is out of range: an answer by the model or an error, over a state
that can still be reckoned with. -/
def Answers (outcome : Except Overflow Turn) : Prop :=
  ∃ turn, outcome = .ok turn ∧ turn.role ≠ .user ∧ Fields.Fit turn.state

theorem answers_dissonance (kernel : Kernel) (fit : Fields.Fit state) (store : Store) (reason : String) :
    Answers (kernel.dissonance state store reason) := by
  obtain ⟨next, disturbed, small⟩ := kernel.fit_disturb fit
  simp only [dissonance, disturbed, Except.map]
  exact ⟨_, rfl, by rintro ⟨⟩, small⟩

theorem answers_runCommand (fit : Fields.Fit state) {resolution : Resolution}
    (literals : ∀ change ∈ resolution.command.impact.changes, change.Fits)
    (given : ∀ params, resolution.outcome = .ok params → params.Fit) (store : Store) :
    Answers (runCommand resolution state store).1 := by
  unfold runCommand
  cases bound : resolution.outcome with
  | error fault => exact ⟨_, rfl, by rintro ⟨⟩, fit⟩
  | ok params =>
    obtain ⟨next, applied, small⟩ := State.fit_applyAll fit literals (given params bound)
    dsimp only
    rw [applied]
    exact ⟨_, rfl, by rintro ⟨⟩, small⟩

theorem fit_consult (kernel : Kernel) {narrator : Option Narrator} (fits : ∀ model, narrator = some model → model.Fits)
    (line : String) (state : State) (history : List Value) (operator : String) :
    (∀ model, (kernel.consult narrator line state history operator).2 = some model → model.Fits) ∧
      ∀ proposal, (kernel.consult narrator line state history operator).1 = .ok proposal →
        ∀ entry ∈ proposal.newState, entry.2.Fits := by
  unfold consult
  split
  · exact ⟨by rintro _ ⟨⟩, by rintro _ ⟨⟩⟩
  · rename_i model
    split
    · exact ⟨fits, by rintro _ ⟨⟩⟩
    · split
      · dsimp only
        obtain ⟨kept, small⟩ := (fits model rfl).interpret _ _
        exact ⟨by rintro _ ⟨⟩; exact kept, fun proposal made => small proposal (Except.mapError_eq_ok.mp made)⟩
      · exact ⟨fits, by rintro _ ⟨⟩⟩

theorem answers_stressTest (kernel : Kernel) (fit : Fields.Fit state) (line : String) (store : Store) :
    Answers (.ok (kernel.stressTest line state store)) := by
  have kept := State.fit_override fit kernel.definitions line
  unfold stressTest
  generalize State.override kernel.definitions state line = made at kept ⊢
  exact ⟨_, rfl, by rintro ⟨⟩, kept⟩

/-- Whatever line a kernel is given, it answers, if nothing that it works with is out of range. -/
theorem answers_execute (literals : kernel.Fits) {sources : Sources} (lent : sources.Fit) (fit : Fields.Fit state)
    (input : String) (store : Store) (history : List Value) (operator : String) :
    Answers (kernel.execute sources input state store history operator).outcome ∧
      (kernel.execute sources input state store history operator).sources.Fit := by
  unfold execute
  dsimp only
  split
  · exact ⟨kernel.answers_stressTest fit _ store, lent⟩
  · generalize made : Resolution.resolve kernel.catalog (Text.strip input) sources.draws = resolved
    obtain ⟨resolution, draws⟩ := resolved
    obtain ⟨drawn, given⟩ := Resolution.fit_resolve made lent.draws
    cases resolution with
    | some resolution =>
      obtain ⟨catalog, loaded, member⟩ := Resolution.resolve_mem made
      have small : ∀ change ∈ resolution.command.impact.changes, change.Fits := fun change own =>
        literals catalog loaded change (List.mem_flatMap.mpr ⟨resolution.command, member, own⟩)
      exact ⟨answers_runCommand fit small (fun params bound => given resolution params rfl bound) store,
        lent.narrator, drawn⟩
    | none =>
      obtain ⟨kept, small⟩ := kernel.fit_consult lent.narrator (Text.strip input) state history operator
      simp only [interpretFreely]
      split
      · exact ⟨kernel.answers_dissonance fit store _, kept, drawn⟩
      · rename_i proposal made
        exact ⟨⟨_, rfl, by rintro ⟨⟩, fit_adopt fit (small proposal made)⟩, kept, drawn⟩

end Kernel

end Workbench
