import Workbench.Proofs.Files.Writing
import Workbench.Proofs.Kernel.Free
import Workbench.Proofs.Session.Operation
import Workbench.Proofs.State.Frame

namespace Workbench

namespace Kernel

theorem agreeOff_disturb {kernel : Kernel} {state next : State} (disturbed : kernel.disturb state = .ok next) :
    Fields.AgreeOff [entropyMetric] state next := by
  obtain ⟨bumped, applied, same⟩ := Except.map_eq_ok.mp disturbed
  have first : Fields.AgreeOff [entropyMetric] state bumped := State.agreeOff_apply applied
  cases found : Fields.get? bumped entropyMetric with
  | none =>
    rw [found] at same
    cases same
    exact first
  | some value =>
    rw [found] at same
    cases same
    exact first.trans (Fields.agreeOff_update List.mem_cons_self bumped _)

/-- A metric has what the model says of it last, if it says anything of it. -/
theorem get?_adopt (state : State) (newState : Fields Value) (key : String) :
    Fields.get? (adopt state newState) key =
      (Fields.get? state key).map fun old => (Fields.get? newState.reverse key).getD old := by
  unfold adopt
  induction newState generalizing state with
  | nil => simp [Fields.get?]
  | cons entry rest ih =>
    rw [List.foldl_cons, ih, Fields.get?_update, List.reverse_cons, Fields.get?_append]
    by_cases same : entry.1 = key
    · cases Fields.get? state key <;> cases Fields.get? rest.reverse key <;> simp [Fields.get?, same]
    · cases Fields.get? state key <;> simp [Fields.get?, same]

end Kernel

/-- Whether a turn leaves all files as they are. -/
def Turn.SparesFiles (turn : Turn) (store : Store) : Prop :=
  turn.store = store ∧ turn.changed = []

/-- What a turn on a line leaves as it is: all metrics but those that it sets, and all files but those that it
lists. A command without its parameters changes nothing. Overrides change the metrics that they name; a free
interpretation changes the metrics of which the model speaks, or, if it fails, the entropy; they touch no file. -/
structure Turn.Frame (kernel : Kernel) (sources : Sources) (line : String) (state : State) (store : Store)
    (history : List Value) (operator : String) (turn : Turn) : Prop where
  metrics : Fields.keys turn.state = Fields.keys state
  files : Fields.AgreeOff (turn.changed.map FileChange.path) store turn.store
  rejected : ∀ resolution fault, turn.resolution = some resolution → resolution.outcome = .error fault →
    turn.state = state ∧ turn.SparesFiles store
  overridden : Text.leads State.overrideCommand line = true →
    Fields.AgreeOff (State.overrideKeys line) state turn.state ∧ turn.SparesFiles store
  failed : kernel.IsFree sources line → ∀ fault,
    (kernel.consult sources.narrator line state history operator).1 = .error fault →
      Fields.AgreeOff [Kernel.entropyMetric] state turn.state ∧ turn.SparesFiles store
  interpreted : kernel.IsFree sources line → ∀ proposal,
    (kernel.consult sources.narrator line state history operator).1 = .ok proposal →
      (∀ key, Fields.get? turn.state key =
        (Fields.get? state key).map fun old => (Fields.get? proposal.newState.reverse key).getD old) ∧
      turn.SparesFiles store

namespace Kernel

variable {kernel : Kernel} {sources : Sources} {line operator : String} {state : State} {store : Store}
  {history : List Value} {turn : Turn}

theorem frame_stressTest (forced : Text.leads State.overrideCommand line = true) :
    (kernel.stressTest line state store).Frame kernel sources line state store history operator where
  metrics := State.keys_override kernel.definitions state line
  files := fun _ _ => rfl
  rejected := by rintro _ _ ⟨⟩
  overridden := fun _ => ⟨State.agreeOff_override kernel.definitions state line, rfl, rfl⟩
  failed := fun free => absurd (forced.symm.trans free.1) (by simp)
  interpreted := fun free => absurd (forced.symm.trans free.1) (by simp)

theorem frame_runCommand {resolution : Resolution} (plain : Text.leads State.overrideCommand line = false)
    (resolved : (Resolution.resolve kernel.catalog line sources.draws).1 = some resolution)
    (ran : (runCommand resolution state store).1 = .ok turn) :
    turn.Frame kernel sources line state store history operator := by
  have taken : ¬ kernel.IsFree sources line := fun free => by cases resolved.symm.trans free.2
  have unforced : Text.leads State.overrideCommand line ≠ true := by rw [plain]; simp
  have metrics := keys_runCommand ran
  unfold runCommand at ran
  cases bound : resolution.outcome with
  | error fault =>
    rw [bound] at ran
    cases ran
    exact {
      metrics := metrics
      files := fun _ _ => rfl
      rejected := fun _ _ _ _ => ⟨rfl, rfl, rfl⟩
      overridden := fun forced => absurd forced unforced
      failed := fun free => absurd free taken
      interpreted := fun free => absurd free taken }
  | ok params =>
    rw [bound] at ran
    dsimp only at ran
    cases applied : State.applyAll params state resolution.command.impact.changes with
    | error fault =>
      rw [applied] at ran
      cases ran
    | ok next =>
      rw [applied] at ran
      cases ran
      exact {
        metrics := metrics
        files := FileAction.agreeOff_performAll resolution.command.impact.actions params store
        rejected := by
          rintro _ fault ⟨⟩ refused
          cases bound.symm.trans refused
        overridden := fun forced => absurd forced unforced
        failed := fun free => absurd free taken
        interpreted := fun free => absurd free taken }

theorem frame_interpretFreely (plain : Text.leads State.overrideCommand line = false)
    (ran : (kernel.interpretFreely sources line state store history operator).outcome = .ok turn) :
    turn.Frame kernel sources line state store history operator := by
  have unforced : Text.leads State.overrideCommand line ≠ true := by rw [plain]; simp
  have metrics := keys_interpretFreely ran
  unfold interpretFreely at ran
  dsimp only at ran
  cases consulted : (kernel.consult sources.narrator line state history operator).1 with
  | error fault =>
    rw [consulted] at ran
    obtain ⟨next, disturbed, same⟩ := Except.map_eq_ok.mp ran
    subst same
    exact {
      metrics := metrics
      files := fun _ _ => rfl
      rejected := by rintro _ _ ⟨⟩
      overridden := fun forced => absurd forced unforced
      failed := fun _ _ _ => ⟨agreeOff_disturb disturbed, rfl, rfl⟩
      interpreted := by
        rintro _ proposal made
        cases consulted.symm.trans made }
  | ok proposal =>
    rw [consulted] at ran
    cases ran
    exact {
      metrics := metrics
      files := fun _ _ => rfl
      rejected := by rintro _ _ ⟨⟩
      overridden := fun forced => absurd forced unforced
      failed := by
        rintro _ fault refused
        cases consulted.symm.trans refused
      interpreted := by
        rintro _ other made
        cases consulted.symm.trans made
        exact ⟨get?_adopt state proposal.newState, rfl, rfl⟩ }

theorem frame_execute {input : String}
    (ran : (kernel.execute sources input state store history operator).outcome = .ok turn) :
    turn.Frame kernel sources (Text.strip input) state store history operator := by
  rcases kernel.route sources (Text.strip input) with forced | ⟨resolution, plain, resolved⟩ | free
  · rw [outcome_of_forced forced] at ran
    cases ran
    exact frame_stressTest forced
  · rw [outcome_of_resolved plain resolved] at ran
    exact frame_runCommand plain resolved ran
  · rw [outcome_of_free free] at ran
    exact frame_interpretFreely free.1 ran

theorem isResolved_of_runCommand {resolution : Resolution} (ran : (runCommand resolution state store).1 = .ok turn) :
    ∀ change ∈ turn.changed, FileAction.isResolved change.path = true := by
  unfold runCommand at ran
  split at ran
  · cases ran
    exact List.forall_mem_nil _
  · split at ran
    · cases ran
    · cases ran
      exact FileAction.isResolved_of_changed _ _ _

/-- The files that a turn lists have resolved paths. -/
theorem isResolved_of_execute {input : String}
    (ran : (kernel.execute sources input state store history operator).outcome = .ok turn) :
    ∀ change ∈ turn.changed, FileAction.isResolved change.path = true := by
  have frame := frame_execute ran
  rcases kernel.route sources (Text.strip input) with forced | ⟨resolution, plain, resolved⟩ | free
  · rw [(frame.overridden forced).2.2]
    exact List.forall_mem_nil _
  · rw [outcome_of_resolved plain resolved] at ran
    exact isResolved_of_runCommand ran
  · have spared : turn.changed = [] := by
      cases consulted : (kernel.consult sources.narrator (Text.strip input) state history operator).1 with
      | error fault => exact (frame.failed free fault consulted).2.2
      | ok proposal => exact (frame.interpreted free proposal consulted).2.2
    rw [spared]
    exact List.forall_mem_nil _

end Kernel

/-- A turn that breaks leaves the state and the files of its session as they are. -/
theorem Session.keeps_of_fault {session : Session} {input : Option String} {operator : String} {fault : Overflow}
    (broke : (session.turnOn (Text.strip (input.getD "")) operator).outcome = .error fault) :
    (session.after (.command input operator)).state = session.state ∧
      (session.after (.command input operator)).store = session.store := by
  rcases session.command_cases input operator with ⟨_, _, same⟩ | ⟨turn, _, ran, _⟩
  · rw [Session.after, same]
    exact ⟨rfl, rfl⟩
  · cases broke.symm.trans ran

/-- Whatever comes of a kernel turn, the state that it was given is as it was. The files are left as its result says,
and the result keeps to its frame; if the turn breaks, they too are as they were, since all that can break comes
before the first file action. So a session whose turn breaks keeps its state and its files. -/
theorem Kernel.turn_frame (kernel : Kernel) (sources : Sources) (input : String) (state : State) (store : Store)
    (history : List Value) (operator : String) :
    (kernel.execute sources input state store history operator).HandsBack state store ∧
    (∀ turn, (kernel.execute sources input state store history operator).outcome = .ok turn →
      turn.Frame kernel sources (Text.strip input) state store history operator) ∧
    ∀ (session : Session) (line : Option String) (speaker : String) (fault : Overflow),
      (session.turnOn (Text.strip (line.getD "")) speaker).outcome = .error fault →
        (session.after (.command line speaker)).state = session.state ∧
          (session.after (.command line speaker)).store = session.store := by
  refine ⟨handsBack_execute kernel sources input state store history operator, fun turn ran => frame_execute ran, ?_⟩
  exact fun session line speaker fault broke => Session.keeps_of_fault broke

end Workbench
