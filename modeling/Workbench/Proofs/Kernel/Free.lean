import Mathlib
import Workbench.Kernel
import Workbench.Proofs.Outcome
namespace Workbench

namespace Narrator

/-- What a model says in a single message. -/
def spoken (said : List Char) : List OutputItem :=
  [⟨some "message", some [⟨some "output_text", some (.text (String.ofList said))⟩]⟩]

theorem outputText_spoken {said : List Char} (trimmed : Text.trim Text.isBlank said = said) :
    outputText (spoken said) = .ok (String.ofList said) := by
  have told : outputText (spoken said) = .ok (Text.strip (String.ofList said)) := rfl
  rw [told, Text.strip, String.toList_ofList, trimmed]

theorem proposalOf_of_document {said : List Char} {members newState : Fields Value} {narrative : Value}
    (read : (Json.document said).toOption = some (.object members))
    (told : Fields.get? members "narrative" = some narrative) (truthy : narrative.truthy = true)
    (proposed : Fields.get? members "newState" = some (.object newState)) :
    proposalOf (String.ofList said) = .ok ⟨members, narrative, newState⟩ := by
  rw [proposalOf, Json.parse, String.toList_ofList]
  cases made : Json.document said with
  | error stop =>
    rw [made] at read
    cases read
  | ok value =>
    rw [made] at read
    cases read
    simp only [Except.mapError, told, proposed, if_pos truthy]

theorem interpret_of_output {narrator : Narrator} {items : List OutputItem} {rest : List ModelReply} {text : String}
    (script : narrator.replies = .output items :: rest) (told : outputText items = .ok text) (system : String)
    {history : List Value} {turns : List ModelMessage} (known : ModelMessage.ofHistory history = .ok turns) :
    ∃ later : Narrator, later.replies = rest ∧ narrator.interpret system history = (proposalOf text, later) := by
  unfold interpret ask
  rw [known, script]
  dsimp only
  rw [told]
  exact ⟨_, rfl, rfl⟩

theorem interpret_of_failure {narrator : Narrator} {reason : String} {rest : List ModelReply}
    (script : narrator.replies = .failure reason :: rest) (system : String) (history : List Value) :
    ∃ fault, (narrator.interpret system history).1 = .error fault := by
  unfold interpret ask
  rw [script]
  dsimp only
  split
  · exact ⟨_, rfl⟩
  · exact ⟨_, rfl⟩

end Narrator

namespace Kernel

variable {kernel : Kernel} {template : String} {narrator : Narrator}

/-- Whether a line is left to the model: it begins no override and resolves to no command. -/
def IsFree (kernel : Kernel) (sources : Sources) (line : String) : Prop :=
  Text.leads State.overrideCommand line = false ∧ (Resolution.resolve kernel.catalog line sources.draws).1 = none

/-- A line overrides metrics, runs a command or is left to the model. -/
theorem route (kernel : Kernel) (sources : Sources) (line : String) :
    Text.leads State.overrideCommand line = true ∨
      (∃ resolution, Text.leads State.overrideCommand line = false ∧
        (Resolution.resolve kernel.catalog line sources.draws).1 = some resolution) ∨ kernel.IsFree sources line := by
  by_cases forced : Text.leads State.overrideCommand line = true
  · exact Or.inl forced
  · have plain : Text.leads State.overrideCommand line = false := by simpa using forced
    cases resolved : (Resolution.resolve kernel.catalog line sources.draws).1 with
    | some resolution => exact Or.inr (Or.inl ⟨resolution, plain, rfl⟩)
    | none => exact Or.inr (Or.inr ⟨plain, resolved⟩)

section Outcome

variable {sources : Sources} {input : String}

theorem outcome_of_forced (forced : Text.leads State.overrideCommand (Text.strip input) = true) (state : State)
    (store : Store) (history : List Value) (operator : String) :
    (kernel.execute sources input state store history operator).outcome =
      .ok (kernel.stressTest (Text.strip input) state store) := by
  unfold execute
  dsimp only
  rw [if_pos forced]

theorem outcome_of_resolved {resolution : Resolution}
    (plain : Text.leads State.overrideCommand (Text.strip input) = false)
    (resolved : (Resolution.resolve kernel.catalog (Text.strip input) sources.draws).1 = some resolution)
    (state : State) (store : Store) (history : List Value) (operator : String) :
    (kernel.execute sources input state store history operator).outcome = (runCommand resolution state store).1 := by
  unfold execute
  dsimp only
  rw [plain, resolved]
  rfl

theorem outcome_of_free (free : kernel.IsFree sources (Text.strip input)) (state : State) (store : Store)
    (history : List Value) (operator : String) :
    (kernel.execute sources input state store history operator).outcome =
      (kernel.interpretFreely sources (Text.strip input) state store history operator).outcome := by
  unfold execute interpretFreely
  dsimp only
  rw [free.1, free.2]
  cases (kernel.consult sources.narrator (Text.strip input) state history operator).1 <;> rfl

end Outcome

end Kernel

/-- What a kernel turn hands back of what it was given: the state as it was, and the files of its result or, if it
breaks, the files as they were. -/
structure KernelStep.HandsBack (step : KernelStep) (state : State) (store : Store) : Prop where
  state : step.state = state
  files : ∀ turn, step.outcome = .ok turn → step.store = turn.store
  unwritten : ∀ fault, step.outcome = .error fault → step.store = store

namespace Kernel

variable {kernel : Kernel} {template : String} {narrator : Narrator}

/-- All that can break in a command comes before its first file action. -/
theorem handsBack_runCommand {resolution : Resolution} {state : State} {store left : Store}
    {outcome : Except Overflow Turn} {notices : List Notice}
    (ran : runCommand resolution state store = (outcome, left, notices)) (sources : Sources) :
    (KernelStep.mk outcome state left sources notices).HandsBack state store := by
  unfold runCommand at ran
  cases bound : resolution.outcome with
  | error fault =>
    rw [bound] at ran
    cases ran
    exact ⟨rfl, fun _ answered => congrArg Turn.store (Except.ok.inj answered), fun _ _ => rfl⟩
  | ok params =>
    rw [bound] at ran
    dsimp only at ran
    cases applied : State.applyAll params state resolution.command.impact.changes with
    | error fault =>
      rw [applied] at ran
      cases ran
      exact ⟨rfl, fun _ answered => (by cases answered), fun _ _ => rfl⟩
    | ok next =>
      rw [applied] at ran
      cases ran
      exact ⟨rfl, fun _ answered => congrArg Turn.store (Except.ok.inj answered), fun _ broke => (by cases broke)⟩

theorem handsBack_interpretFreely (kernel : Kernel) (sources : Sources) (line : String) (state : State) (store : Store)
    (history : List Value) (operator : String) :
    (kernel.interpretFreely sources line state store history operator).HandsBack state store := by
  unfold interpretFreely
  dsimp only
  cases (kernel.consult sources.narrator line state history operator).1 with
  | ok proposal => exact ⟨rfl, fun _ answered => congrArg Turn.store (Except.ok.inj answered), fun _ _ => rfl⟩
  | error fault =>
    refine ⟨rfl, ?_, fun _ _ => rfl⟩
    intro turn answered
    obtain ⟨_, _, same⟩ := Except.map_eq_ok.mp answered
    rw [← same]

theorem handsBack_execute (kernel : Kernel) (sources : Sources) (input : String) (state : State) (store : Store)
    (history : List Value) (operator : String) :
    (kernel.execute sources input state store history operator).HandsBack state store := by
  unfold execute
  dsimp only
  split
  · refine ⟨rfl, fun turn answered => ?_, fun _ _ => rfl⟩
    rw [← Except.ok.inj answered]
    rfl
  · split
    · exact handsBack_runCommand rfl _
    · exact handsBack_interpretFreely kernel _ _ state store history operator

/-- Without a catalog every line that is no override is left to the model. -/
theorem execute_free (bare : kernel.catalog = none) {input : String}
    (plain : Text.leads State.overrideCommand (Text.strip input) = false) (sources : Sources) (state : State)
    (store : Store) (history : List Value) (operator : String) :
    kernel.execute sources input state store history operator =
      kernel.interpretFreely sources (Text.strip input) state store history operator := by
  unfold execute
  dsimp only
  rw [plain, bare]
  rfl

theorem consult_of_prompt (prompt : kernel.prompt = .text template) (written : template ≠ "")
    (narrator : Narrator) (line : String) (state : State) (history : List Value) (operator : String) :
    ∃ system turns, (history ≠ [] → turns = history) ∧
      kernel.consult (some narrator) line state history operator =
        ((narrator.interpret system turns).1.mapError .narrator, some (narrator.interpret system turns).2) := by
  have truthy : (Value.text template).truthy = true := bne_iff_ne.mpr written
  unfold consult
  rw [prompt]
  dsimp only
  rw [truthy]
  refine ⟨_, _, ?_, rfl⟩
  intro spoken
  exact if_neg (by simpa using spoken)

/-- What the model proposes is taken over. -/
theorem interpretFreely_of_proposal (prompt : kernel.prompt = .text template) (written : template ≠ "")
    {items : List OutputItem} {rest : List ModelReply} (script : narrator.replies = .output items :: rest)
    {text : String} (told : Narrator.outputText items = .ok text) {proposal : Narrator.Proposal}
    (read : Narrator.proposalOf text = .ok proposal) {history : List Value} {turns : List ModelMessage}
    (spoken : history ≠ []) (known : ModelMessage.ofHistory history = .ok turns) (draws : Draws) (line : String)
    (state : State) (store : Store) (operator : String) :
    ∃ later : Narrator, later.replies = rest ∧
      kernel.interpretFreely ⟨some narrator, draws⟩ line state store history operator =
        ⟨.ok ⟨.model, proposal.narrative.display, adopt state proposal.newState, store, none, []⟩, state, store,
          ⟨some later, draws⟩, []⟩ := by
  obtain ⟨system, given, same, consulted⟩ :=
    consult_of_prompt prompt written narrator line state history operator
  obtain ⟨later, left, answered⟩ := Narrator.interpret_of_output script told system known
  rw [← same spoken] at answered
  refine ⟨later, left, ?_⟩
  unfold interpretFreely
  rw [consulted, answered, read]
  rfl

/-- A model that fails is answered by dissonance. -/
theorem interpretFreely_of_failure (prompt : kernel.prompt = .text template) (written : template ≠ "")
    {reason : String} {rest : List ModelReply} (script : narrator.replies = .failure reason :: rest)
    (draws : Draws) (line : String) (state : State) (store : Store) (history : List Value) (operator : String) :
    ∃ fault, (kernel.interpretFreely ⟨some narrator, draws⟩ line state store history operator).outcome =
      kernel.dissonance state store fault := by
  obtain ⟨system, given, _, consulted⟩ :=
    consult_of_prompt prompt written narrator line state history operator
  obtain ⟨fault, refused⟩ := Narrator.interpret_of_failure script system given
  refine ⟨(FreeFault.narrator fault).message, ?_⟩
  unfold interpretFreely
  rw [consulted, refused]
  rfl

end Kernel

end Workbench
