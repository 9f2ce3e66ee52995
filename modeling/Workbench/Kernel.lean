import Workbench.Command.Resolve
import Workbench.Files.Action
import Workbench.Narrator
import Workbench.State.Mutation
import Workbench.State.Overrides

namespace Workbench

/-- What a kernel turn draws on besides state and files: a language model and random draws. -/
structure Sources where
  narrator : Option Narrator
  draws : Draws

/-- The outcome of a kernel turn. -/
structure Turn where
  role : Role
  text : String
  state : State
  store : Store
  resolution : Option Resolution
  changed : List FileChange

/-- Why a line is not interpreted freely. -/
inductive FreeFault where
  | noModel
  | noPrompt
  | promptNotText (kind : String)
  | narrator (fault : NarratorFault)
  deriving DecidableEq

def FreeFault.message : FreeFault → String
  | .noModel => "No kernel model configured."
  | .noPrompt => "Kernel prompt template not found in bootstrap."
  | .promptNotText kind => "'" ++ kind ++ "' object has no attribute 'replace'"
  | .narrator fault => fault.message

/-- The command kernel: the catalog, the metrics and the prompt for free interpretation. -/
structure Kernel where
  catalog : Option Catalog
  definitions : List Definition
  prompt : Value

/-- A kernel turn with the state and the files that it was given, as it leaves them whatever comes of it, what is
left of its sources, and what it noted. -/
structure KernelStep where
  outcome : Except Overflow Turn
  state : State
  store : Store
  sources : Sources
  notices : List Notice

namespace Kernel

def entropyMetric : String := "chaotic_entropy"

def entropyStep : Float := 0.05

def defaultOperator : String := "Send"

/-- The fixed change of a failed free interpretation. -/
def entropyBump : StateChange :=
  ⟨entropyMetric, .increase, some (.float entropyStep), some .numerical, none, none, none⟩

/-- A turn that overrides metrics directly. -/
def stressTest (kernel : Kernel) (line : String) (state : State) (store : Store) : Turn :=
  let (state, count) := State.override kernel.definitions state line
  { role := .model
    text := "[dmesg] System stress test complete. Applied " ++ toString count ++ " direct state overrides."
    state := state, store := store, resolution := none, changed := [] }

/-- What a command says: its story, else its diagnostic line, else that it is done. -/
def reportOf (resolution : Resolution) (params : Fields Value) : String :=
  let impact := resolution.command.impact
  let template := if impact.narrative = "" then impact.diagnostic else impact.narrative
  if template = "" then
    Text.stripEnd ("[dmesg] " ++ resolution.utility.commandName ++ " " ++ resolution.command.name.getD "") ++ ": ok"
  else Template.render template params

/-- A turn of a command, with the files as it leaves them: its state changes, then its file actions. -/
def runCommand (resolution : Resolution) (state : State) (store : Store) :
    Except Overflow Turn × Store × List Notice :=
  match resolution.outcome with
  | .error fault =>
    (.ok ⟨.error, "[dmesg] command error: " ++ fault.message, state, store, some resolution, []⟩, store, [])
  | .ok params =>
    match State.applyAll params state resolution.command.impact.changes with
    | .error fault => (.error fault, store, [])
    | .ok state =>
      let outcome := FileAction.performAll resolution.command.impact.actions params store
      (.ok ⟨.model, reportOf resolution params, state, outcome.store, some resolution, outcome.changed⟩,
        outcome.store, outcome.notices)

/-- The scale of the entropy metric; without a definition of one it runs from zero to one. -/
def entropyRange (kernel : Kernel) : Float × Float :=
  match Definition.find? kernel.definitions entropyMetric with
  | some (.metric definition) => definition.range
  | _ => (0.0, 1.0)

/-- A state after a failed free interpretation: entropy rises by a step within its scale. -/
def disturb (kernel : Kernel) (state : State) : Except Overflow State :=
  (State.apply [] state entropyBump).map fun state =>
    match Fields.get? state entropyMetric with
    | none => state
    | some value =>
      let (low, high) := kernel.entropyRange
      Fields.update state entropyMetric (value.clampTo (some (.real low, .real high)))

/-- A turn that answers a failed free interpretation. -/
def dissonance (kernel : Kernel) (state : State) (store : Store) (reason : String) : Except Overflow Turn :=
  (kernel.disturb state).map fun state =>
    let current := ((Fields.get? state entropyMetric).map Value.gauge).getD "n/a"
    { role := .error
      text := "[System Alert] A cognitive dissonance event occurred. The incoming data stream was incoherent, " ++
        "causing a surge in system entropy. Entropy increased by " ++ Decimal.plain entropyStep ++ ". " ++
        "Current Entropy: " ++ current ++ ". Error: " ++ reason
      state := state, store := store, resolution := none, changed := [] }

/-- Take over new values for known metrics. -/
def adopt (state : State) (newState : Fields Value) : State :=
  newState.foldl (fun state entry => Fields.update state entry.1 entry.2) state

/-- Ask the model about a line. -/
def consult (kernel : Kernel) (narrator : Option Narrator) (line : String) (state : State)
    (history : List Value) (operator : String) : Except FreeFault Narrator.Proposal × Option Narrator :=
  match narrator with
  | none => (.error .noModel, none)
  | some model =>
    if !kernel.prompt.truthy then (.error .noPrompt, narrator)
    else match kernel.prompt with
      | .text template =>
        let system := Template.render template [
          ("STATE_STRING", .text (State.line kernel.definitions state ", ")),
          ("OPERATOR", .text operator), ("USER_PROMPT", .text line)]
        let turns := if history.isEmpty then [(ChatEntry.of .user line).toValue] else history
        let (proposal, model) := model.interpret system turns
        (proposal.mapError .narrator, some model)
      | other => (.error (.promptNotText other.kindName), narrator)

/-- A turn of free interpretation. A failure is answered, not raised. -/
def interpretFreely (kernel : Kernel) (sources : Sources) (line : String) (state : State) (store : Store)
    (history : List Value) (operator : String) : KernelStep :=
  let (proposal, narrator) := kernel.consult sources.narrator line state history operator
  let sources := { sources with narrator := narrator }
  match proposal with
  | .error fault =>
    ⟨kernel.dissonance state store fault.message, state, store, sources,
      [.error ("Kernel processing error: " ++ fault.message)]⟩
  | .ok proposal =>
    ⟨.ok ⟨.model, proposal.narrative.display, adopt state proposal.newState, store, none, []⟩, state, store,
      sources, []⟩

/-- One kernel turn: overrides, a command of the catalog, or free interpretation. -/
def execute (kernel : Kernel) (sources : Sources) (input : String) (state : State) (store : Store)
    (history : List Value) (operator : String) : KernelStep :=
  let line := Text.strip input
  if Text.leads State.overrideCommand line then
    ⟨.ok (kernel.stressTest line state store), state, store, sources, []⟩
  else
    let (resolution, draws) := Resolution.resolve kernel.catalog line sources.draws
    let sources := { sources with draws := draws }
    match resolution with
    | some resolution =>
      let (outcome, store, notices) := runCommand resolution state store
      ⟨outcome, state, store, sources, notices⟩
    | none => kernel.interpretFreely sources line state store history operator

end Kernel

end Workbench
