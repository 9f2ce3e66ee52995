import Workbench.Proofs.Kernel.Free
import Workbench.Proofs.Outcome
import Workbench.Proofs.State.Metrics
import Workbench.Session

namespace Workbench.Session

/-- What happens to a session: a line for the kernel or the shell, a monologue, a look at what it shows,
and a change of the narrator and draws or of the time that it works with. -/
inductive Operation where
  | command (input : Option String) (operator : String)
  | shell (input : Option String)
  | monologue (portal : String)
  | snapshot
  | tree
  | drain
  | lend (sources : Sources)
  | clock (now : String)

/-- The session after an operation, also after one that fails. -/
def after (session : Session) : Operation → Session
  | .command input operator => (session.command input operator).2.1
  | .shell input => match session.shell input with
    | .ok (_, next) => next
    | .error _ => session
  | .monologue portal => (session.monologue portal).2.1
  | .snapshot => session
  | .tree => session
  | .drain => session.drain.2
  | .lend sources => { session with sources := sources }
  | .clock now => { session with now := now }

/-- The session after operations, the first one first. -/
def afterAll (session : Session) (operations : List Operation) : Session :=
  operations.foldl after session

theorem afterAll_concat (session : Session) (operations : List Operation) (operation : Operation) :
    session.afterAll (operations ++ [operation]) = (session.afterAll operations).after operation := by
  simp only [afterAll, List.foldl_append, List.foldl_cons, List.foldl_nil]

/-- The session once a line has been noted and before the kernel has taken its turn. -/
def asked (session : Session) (line : String) : Session :=
  { session with lastAction := line }.say "kernel" [ChatEntry.of .user line]

/-- The kernel's turn on a line that has been noted. -/
def turnOn (session : Session) (line operator : String) : KernelStep :=
  session.kernel.execute session.sources line session.state session.store
    (((session.asked line).history "kernel").map ChatEntry.toValue) operator

theorem recordTurn_log (session : Session) (turn : Turn) (line : String) :
    ∃ log, session.recordTurn turn line = { session with log := log } := by
  unfold recordTurn
  generalize turn.changed = changes
  induction changes generalizing session with
  | nil => exact ⟨_, rfl⟩
  | cons change rest ih =>
    obtain ⟨log, same⟩ := ih (session.record "vfs" (change.verb.word ++ " " ++ change.path))
    exact ⟨log, same⟩

/-- Completing a turn takes over its state and kernel answer and writes log and files. -/
theorem complete_frame (session : Session) (turn : Turn) (line : String) :
    ∃ log store, session.complete turn line =
      { session.say "kernel" [ChatEntry.of turn.role turn.text] with
        state := turn.state, log := log, store := store } := by
  obtain ⟨log, same⟩ := recordTurn_log
    ({ session with state := turn.state, store := turn.store }.say "kernel" [ChatEntry.of turn.role turn.text])
    turn line
  unfold complete
  dsimp only
  split
  · exact ⟨log, turn.store, same⟩
  · exact ⟨log, _, by rw [same]; rfl⟩

@[simp] theorem complete_state (session : Session) (turn : Turn) (line : String) :
    (session.complete turn line).state = turn.state := by
  obtain ⟨log, store, same⟩ := complete_frame session turn line
  rw [same]

@[simp] theorem complete_kernel (session : Session) (turn : Turn) (line : String) :
    (session.complete turn line).kernel = session.kernel := by
  obtain ⟨log, store, same⟩ := complete_frame session turn line
  rw [same, say]

/-- The session once the kernel has taken its turn on a line and before the turn is taken over. -/
def ready (session : Session) (line operator : String) : Session :=
  { session.asked line with sources := (session.turnOn line operator).sources }

/-- A line is put to the kernel, whose turn is taken over if it succeeds and told to the views if the gauges can be
shown. -/
theorem command_eq (session : Session) {input : Option String} {line : String}
    (typed : Text.strip (input.getD "") = line) (operator : String) :
    session.command input operator = match (session.turnOn line operator).outcome with
      | .error fault => (.error fault, session.ready line operator, (session.turnOn line operator).notices)
      | .ok turn => match ((session.ready line operator).complete turn line).announce with
        | .error fault =>
          (.error fault, (session.ready line operator).complete turn line, (session.turnOn line operator).notices)
        | .ok told => (.ok turn, told, (session.turnOn line operator).notices) := by
  have left : (session.turnOn line operator).HandsBack session.state session.store :=
    Kernel.handsBack_execute _ _ _ _ _ _ _
  unfold ready
  generalize given : session.turnOn line operator = step at left ⊢
  unfold turnOn asked say at given
  unfold command asked say
  dsimp only at given ⊢
  rw [typed, given]
  cases ran : step.outcome with
  | error fault =>
    dsimp only
    rw [left.state, left.unwritten fault ran]
  | ok turn => rfl

/-- A line either fails in the kernel and leaves no more than its question, or completes a turn; only the
events depend on whether the gauges can be shown. -/
theorem command_cases (session : Session) (input : Option String) (operator : String) :
    let line := Text.strip (input.getD "")
    let step := session.turnOn line operator
    let ready := { session.asked line with sources := step.sources }
    (∃ fault, step.outcome = .error fault ∧ (session.command input operator).2.1 = ready) ∨
      ∃ turn events, step.outcome = .ok turn ∧
        (session.command input operator).2.1 = { ready.complete turn line with events := events } := by
  intro line step ready
  have whole := session.command_eq (rfl : Text.strip (input.getD "") = line) operator
  cases ran : step.outcome with
  | error fault =>
    refine Or.inl ⟨fault, rfl, ?_⟩
    rw [whole, ran]
    rfl
  | ok turn =>
    refine Or.inr ⟨turn, ?_⟩
    rw [whole, ran]
    dsimp only
    split
    · exact ⟨_, rfl, rfl⟩
    · rename_i next announced
      obtain ⟨gauges, _, same⟩ := Except.map_eq_ok.mp announced
      exact ⟨_, rfl, same.symm⟩

/-- A line of the shell that is refused changes nothing; one that is served writes files and the history
of the shell. -/
theorem shell_cases (session : Session) (input : Option String) :
    session.after (.shell input) = session ∨
      ∃ store entries, session.after (.shell input) =
        { session with store := store, histories := session.histories.put "shell" entries } := by
  unfold after
  dsimp only
  split
  · rename_i reply next served
    obtain ⟨answer, _, same⟩ := Except.map_eq_ok.mp served
    obtain ⟨_, same⟩ := Prod.mk.inj same
    right
    rw [← same]
    by_cases clears : Text.strip (input.getD "") = "clear"
    · by_cases echoes : Text.leads "echo" (Text.strip (input.getD "")) = true
      · exact ⟨_, _, by rw [if_pos echoes, if_pos clears]⟩
      · exact ⟨_, _, by rw [if_neg echoes, if_pos clears]⟩
    · by_cases echoes : Text.leads "echo" (Text.strip (input.getD "")) = true
      · exact ⟨_, _, by rw [if_pos echoes, if_neg clears]; rfl⟩
      · exact ⟨_, _, by rw [if_neg echoes, if_neg clears]; rfl⟩
  · exact Or.inl rfl

/-- What the model has thought, or why it has not, is one entry at the end of the history of a portal and makes one
log entry. -/
theorem utter_cases (session : Session) (portal : String) (answer : Except MonologueFault String) :
    ∃ entry, (session.utter portal answer).1 = session.history portal ++ [entry] ∧
      (session.utter portal answer).2.1 = (session.say portal [entry]).record portal "monologue" := by
  have grown (entry : ChatEntry) : (session.say portal [entry]).history portal = session.history portal ++ [entry] := by
    simp [history, say, Fields.get?_put]
  cases answer with
  | ok text => exact ⟨_, grown _, rfl⟩
  | error fault => exact ⟨_, grown _, rfl⟩

/-- A monologue puts one entry at the end of the history of a portal that exists and makes one log entry,
whether the model answers or not. Of any other portal it changes nothing. -/
theorem monologue_cases (session : Session) (portal : String) :
    (portals.contains portal = false ∧ session.monologue portal = (.error ⟨portal⟩, session, [])) ∨
      portals.contains portal = true ∧ ∃ entry sources,
        (session.monologue portal).1 = .ok (session.history portal ++ [entry]) ∧
        (session.monologue portal).2.1 =
          (({ session with sources := sources }.say portal [entry]).record portal "monologue") := by
  unfold monologue
  by_cases known : portals.contains portal = true
  · right
    refine ⟨known, ?_⟩
    rw [if_pos known]
    generalize session.reflect portal = reflection
    obtain ⟨answer, sources⟩ := reflection
    obtain ⟨entry, told, spoken⟩ := utter_cases { session with sources := sources } portal answer
    exact ⟨entry, sources, congrArg Except.ok told, spoken⟩
  · exact Or.inl ⟨by simpa using known, by rw [if_neg known]⟩

theorem kernel_after (session : Session) (operation : Operation) :
    (session.after operation).kernel = session.kernel := by
  cases operation with
  | command input operator =>
    rcases session.command_cases input operator with ⟨_, _, same⟩ | ⟨turn, _, _, same⟩
    · simp only [after, same, asked, say]
    · simp only [after, same, complete_kernel, asked, say]
  | shell input =>
    rcases session.shell_cases input with same | ⟨_, _, same⟩ <;> rw [same]
  | monologue portal =>
    rcases session.monologue_cases portal with ⟨_, same⟩ | ⟨_, _, _, _, same⟩
    · simp only [after, same]
    · simp only [after, same, say, record]
  | snapshot | tree | drain | lend _ | clock _ => rfl

/-- No operation adds, removes or reorders a metric. -/
theorem keys_after (session : Session) (operation : Operation) :
    Fields.keys (session.after operation).state = Fields.keys session.state := by
  cases operation with
  | command input operator =>
    rcases session.command_cases input operator with ⟨_, _, same⟩ | ⟨turn, _, ran, same⟩
    · simp only [after, same, asked, say]
    · simp only [after, same, complete_state]
      exact Kernel.keys_execute ran
  | shell input =>
    rcases session.shell_cases input with same | ⟨_, _, same⟩ <;> rw [same]
  | monologue portal =>
    rcases session.monologue_cases portal with ⟨_, same⟩ | ⟨_, _, _, _, same⟩
    · simp only [after, same]
    · simp only [after, same, say, record]
  | snapshot | tree | drain | lend _ | clock _ => rfl

end Workbench.Session
