import Workbench.Proofs.Kernel.Free
import Workbench.Proofs.Kernel.Range
import Workbench.Proofs.Session.Isolation
import Workbench.Proofs.Session.Metrics

namespace Workbench.Session

/-- The log records of a completed turn: one for each changed file and then one for the line. -/
def recordsOf (session : Session) (turn : Turn) (line : String) : List LogEntry :=
  turn.changed.map (fun change => ⟨session.now, "vfs", change.verb.word ++ " " ++ change.path⟩) ++
    [⟨session.now, if turn.role = .model then "kernel" else "error", line⟩]

theorem log_recordTurn (session : Session) (turn : Turn) (line : String) :
    (session.recordTurn turn line).log = bounded (session.log ++ session.recordsOf turn line) := by
  unfold recordTurn recordsOf
  generalize turn.changed = changes
  induction changes generalizing session with
  | nil => rfl
  | cons change rest ih =>
    refine (ih _).trans ?_
    simp only [record, bounded_append, List.map_cons, List.cons_append, List.append_assoc, List.nil_append]

theorem log_complete (session : Session) (turn : Turn) (line : String) :
    (session.complete turn line).log = bounded (session.log ++ session.recordsOf turn line) := by
  have logged := log_recordTurn
    ({ session with state := turn.state, store := turn.store }.say "kernel" [ChatEntry.of turn.role turn.text])
    turn line
  unfold complete
  dsimp only
  split
  · exact logged
  · exact logged

/-- Whether nothing that a session works with is out of range. -/
structure Fits (session : Session) : Prop where
  state : Fields.Fit session.state
  literals : session.kernel.Fits
  sources : session.sources.Fit

/-- What a turn on a line leaves behind when it completes whole: an answer by the model or an error after the
line in the kernel's history, the records of the turn at the end of the log, and one event with the gauges
followed by one with the history. -/
structure Completed (old new : Session) (line : String) (turn : Turn) : Prop where
  answered : turn.role ≠ .user
  history : new.history "kernel" =
    old.history "kernel" ++ [ChatEntry.of .user line, ChatEntry.of turn.role turn.text]
  log : new.log = bounded (old.log ++ old.recordsOf turn line)
  events : ∃ gauges, Gauges.ofState new.kernel.definitions new.state = .ok gauges ∧
    new.events = old.events ++ [.gauges gauges, .history "kernel"]

/-- Whether a history is a sequence of lines of the user, each with an answer. -/
inductive Alternates : List ChatEntry → Prop where
  | nil : Alternates []
  | turn {earlier : List ChatEntry} {line answer : ChatEntry} (alternates : Alternates earlier)
      (asked : line.role = .user) (answered : answer.role ≠ .user) : Alternates (earlier ++ [line, answer])

theorem history_say (session : Session) (key other : String) (entries : List ChatEntry) :
    (session.say key entries).history other =
      if key = other then session.history key ++ entries else session.history other := by
  simp only [history, say, Fields.get?_put]
  split <;> rfl

theorem history_complete (session : Session) (turn : Turn) (line : String) :
    (session.complete turn line).history "kernel" = session.history "kernel" ++ [ChatEntry.of turn.role turn.text] := by
  obtain ⟨log, store, same⟩ := complete_frame session turn line
  rw [same]
  exact (session.history_say "kernel" "kernel" _).trans (if_pos rfl)

theorem complete_sources (session : Session) (turn : Turn) (line : String) :
    (session.complete turn line).sources = session.sources := by
  obtain ⟨log, store, same⟩ := complete_frame session turn line
  rw [same, say]

theorem ready_frame (session : Session) (line operator : String) :
    ∃ sources, session.ready line operator = { session.asked line with sources := sources } :=
  ⟨_, rfl⟩

theorem history_ready (session : Session) (line operator : String) :
    (session.ready line operator).history "kernel" = session.history "kernel" ++ [ChatEntry.of .user line] := by
  obtain ⟨sources, same⟩ := session.ready_frame line operator
  rw [same]
  exact (history_say _ "kernel" "kernel" _).trans (if_pos rfl)

theorem log_ready (session : Session) (line operator : String) : (session.ready line operator).log = session.log := by
  obtain ⟨sources, same⟩ := session.ready_frame line operator
  rw [same, asked, say]

theorem recordsOf_ready (session : Session) (line operator : String) (turn : Turn) :
    (session.ready line operator).recordsOf turn line = session.recordsOf turn line := by
  obtain ⟨sources, same⟩ := session.ready_frame line operator
  rw [same]
  rfl

theorem announce_complete (session : Session) {turn : Turn} {gauges : Gauges}
    (shown : Gauges.ofState session.kernel.definitions turn.state = .ok gauges) (line : String) :
    (session.complete turn line).announce = .ok { session.complete turn line with
      events := session.events ++ [.gauges gauges, .history "kernel"] } := by
  obtain ⟨log, store, same⟩ := complete_frame session turn line
  rw [announce, complete_kernel, complete_state, shown, same]
  rfl

variable {session : Session}

/-- A line whose turn succeeds and whose gauges can be shown is answered, and the views are told. -/
theorem command_of_turn {input : Option String} {line operator : String} (typed : Text.strip (input.getD "") = line)
    {turn : Turn} (ran : (session.turnOn line operator).outcome = .ok turn) {gauges : Gauges}
    (shown : Gauges.ofState session.kernel.definitions turn.state = .ok gauges) :
    session.command input operator = (.ok turn, { (session.ready line operator).complete turn line with
      events := session.events ++ [.gauges gauges, .history "kernel"] }, (session.turnOn line operator).notices) := by
  have told := announce_complete (session.ready line operator) shown line
  rw [session.command_eq typed, ran]
  dsimp only
  rw [told]
  rfl

/-- A line whose turn succeeds takes over the state of the turn, even if the gauges cannot be shown. -/
theorem taken_of_turn {input : Option String} {line operator : String} (typed : Text.strip (input.getD "") = line)
    {turn : Turn} (ran : (session.turnOn line operator).outcome = .ok turn) :
    (session.after (.command input operator)).state = turn.state ∧
      (session.after (.command input operator)).sources = (session.turnOn line operator).sources := by
  subst typed
  rcases session.command_cases input operator with ⟨fault, failed, _⟩ | ⟨other, events, done, same⟩
  · cases ran.symm.trans failed
  · cases Except.ok.inj (ran.symm.trans done)
    rw [after, same]
    generalize (session.turnOn _ operator).sources = left
    exact ⟨complete_state _ turn _, complete_sources _ turn _⟩

theorem completed_of_turn {input : Option String} {line operator : String} (typed : Text.strip (input.getD "") = line)
    {turn : Turn} (ran : (session.turnOn line operator).outcome = .ok turn) (answered : turn.role ≠ .user)
    {gauges : Gauges} (shown : Gauges.ofState session.kernel.definitions turn.state = .ok gauges) :
    (session.command input operator).1 = .ok turn ∧
      Completed session (session.after (.command input operator)) line turn := by
  have completed := command_of_turn typed ran shown
  have next := congrArg (fun outcome => outcome.2.1) completed
  have state : (session.after (.command input operator)).state = turn.state := (taken_of_turn typed ran).1
  refine ⟨congrArg Prod.fst completed, answered, ?_, ?_, gauges, ?_, ?_⟩
  · rw [after, next]
    refine (history_complete _ turn line).trans ?_
    rw [history_ready, List.append_assoc]
    rfl
  · rw [after, next]
    refine (log_complete _ turn line).trans ?_
    rw [log_ready, recordsOf_ready]
  · rw [kernel_after, state]
    exact shown
  · rw [after, next]

theorem fits_of_turn {input : Option String} {line operator : String} (typed : Text.strip (input.getD "") = line)
    {turn : Turn} (ran : (session.turnOn line operator).outcome = .ok turn) (state : Fields.Fit turn.state)
    (literals : session.kernel.Fits) (lent : (session.turnOn line operator).sources.Fit) :
    (session.after (.command input operator)).Fits := by
  obtain ⟨taken, left⟩ := taken_of_turn typed ran
  refine ⟨?_, ?_, ?_⟩
  · rw [taken]
    exact state
  · rw [kernel_after]
    exact literals
  · rw [left]
    exact lent

theorem Fits.turnOn (fits : session.Fits) (line operator : String) :
    Kernel.Answers (session.turnOn line operator).outcome ∧ (session.turnOn line operator).sources.Fit :=
  Kernel.answers_execute fits.literals fits.sources fits.state line session.store _ operator

/-- When nothing is out of range, every line completes a turn, and nothing is out of range after it. -/
theorem Fits.command (fits : session.Fits) (input : Option String) (operator : String) :
    (∃ turn, (session.command input operator).1 = .ok turn ∧
      Completed session (session.after (.command input operator)) (Text.strip (input.getD "")) turn) ∧
      (session.after (.command input operator)).Fits := by
  generalize typed : Text.strip (input.getD "") = line
  obtain ⟨⟨turn, ran, answered, state⟩, lent⟩ := fits.turnOn line operator
  obtain ⟨gauges, shown⟩ := Gauges.fit_ofState state session.kernel.definitions
  exact ⟨⟨turn, completed_of_turn typed ran answered shown⟩, fits_of_turn typed ran state fits.literals lent⟩

theorem fit_consult {sources : Sources} (lent : sources.Fit) (portal : String) (brief : Brief) :
    (consult portal brief sources).2.Fit := by
  unfold consult
  split
  · exact lent
  · exact lent
  · rename_i template narrator _ found
    refine ⟨?_, lent.draws⟩
    intro later same
    cases same
    exact ((lent.narrator narrator found).ask _ false).1

theorem fit_reflect (lent : session.sources.Fit) (portal : String) : (session.reflect portal).2.Fit := by
  unfold reflect
  split
  · exact lent
  · exact fit_consult lent portal _

theorem sources_monologue (lent : session.sources.Fit) (portal : String) :
    (session.after (.monologue portal)).sources.Fit := by
  unfold after monologue
  by_cases known : portals.contains portal = true
  · have kept := fit_reflect lent portal
    simp only [known, if_true, utter, record, say]
    exact kept
  · simp only [known]
    exact lent

/-- Nothing comes to be out of range, if nothing is that the session is lent. -/
theorem Fits.after (fits : session.Fits) {operation : Operation}
    (lent : ∀ sources, operation = .lend sources → sources.Fit) : (session.after operation).Fits := by
  cases operation with
  | command input operator => exact (fits.command input operator).2
  | shell input =>
    rcases session.shell_cases input with same | ⟨_, _, same⟩
    · rw [same]
      exact fits
    · rw [same]
      exact ⟨fits.state, fits.literals, fits.sources⟩
  | monologue portal =>
    have frame : (session.after (.monologue portal)).state = session.state := by
      rcases session.monologue_cases portal with ⟨_, same⟩ | ⟨_, _, _, _, same⟩
      · simp only [Session.after, same]
      · simp only [Session.after, same, say, record]
    refine ⟨?_, ?_, sources_monologue fits.sources portal⟩
    · rw [frame]
      exact fits.state
    · rw [kernel_after]
      exact fits.literals
  | lend sources => exact ⟨fits.state, fits.literals, lent sources rfl⟩
  | snapshot | tree | drain | clock _ => exact ⟨fits.state, fits.literals, fits.sources⟩

/-- Only lines for the kernel touch its history, and each adds a line and an answer. -/
theorem Fits.alternates_after (fits : session.Fits) (alternates : Alternates (session.history "kernel"))
    (operation : Operation) : Alternates ((session.after operation).history "kernel") := by
  cases operation with
  | command input operator =>
    obtain ⟨⟨turn, _, completed⟩, _⟩ := fits.command input operator
    rw [completed.history]
    exact alternates.turn rfl completed.answered
  | shell input =>
    rcases session.shell_cases input with same | ⟨store, entries, same⟩
    · rw [same]
      exact alternates
    · rw [same, history, Fields.get?_put, if_neg (by decide)]
      exact alternates
  | monologue portal =>
    rcases session.monologue_cases portal with ⟨_, same⟩ | ⟨known, entry, sources, _, same⟩
    · simp only [Session.after, same]
      exact alternates
    · have other : portal ≠ "kernel" := by
        rintro rfl
        revert known
        decide
      simp only [Session.after, same]
      refine (congrArg Alternates ((history_say _ portal "kernel" _).trans (if_neg other))).mpr ?_
      exact alternates
  | snapshot | tree | drain | lend _ | clock _ => exact alternates

theorem Fits.afterAll (fits : session.Fits) (alternates : Alternates (session.history "kernel"))
    {operations : List Operation} (lent : ∀ sources, .lend sources ∈ operations → sources.Fit) :
    (session.afterAll operations).Fits ∧ Alternates ((session.afterAll operations).history "kernel") := by
  induction operations generalizing session with
  | nil => exact ⟨fits, alternates⟩
  | cons operation rest ih =>
    have first : ∀ sources, operation = .lend sources → sources.Fit := by
      intro sources same
      refine lent sources ?_
      rw [same]
      exact List.mem_cons_self
    -- What fits is carried along, since only a session that fits adds lines with their answers.
    exact ih (fits.after first) (fits.alternates_after alternates operation) fun sources member =>
      lent sources (List.mem_cons_of_mem operation member)

theorem fits_of_start {store : Store} {sources : Sources} {now : String} {notices : List Notice}
    (started : start store sources now = .ok (session, notices)) (literals : session.kernel.Fits)
    (lent : sources.Fit) : session.Fits := by
  have begun := begun_of_start started
  refine ⟨?_, literals, ?_⟩
  · rw [begun.state]
    exact State.fit_initial _ _
  · rw [begun.sources]
    exact lent

/-- A turn that fails leaves the line in the kernel's history and nothing else. -/
theorem halfway_of_fault {input : Option String} {line operator : String}
    (typed : Text.strip (input.getD "") = line) {fault : Overflow}
    (ran : (session.turnOn line operator).outcome = .error fault) :
    (session.command input operator).1 = .error fault ∧
      (session.after (.command input operator)).history "kernel" =
        session.history "kernel" ++ [ChatEntry.of .user line] ∧
      (session.after (.command input operator)).log = session.log ∧
      (session.after (.command input operator)).events = session.events := by
  have broken : session.command input operator =
      (.error fault, session.ready line operator, (session.turnOn line operator).notices) := by
    rw [session.command_eq typed, ran]
  refine ⟨congrArg Prod.fst broken, ?_, ?_, ?_⟩
  · rw [after, broken]
    exact history_ready session line operator
  · rw [after, broken]
    exact log_ready session line operator
  · obtain ⟨sources, frame⟩ := session.ready_frame line operator
    rw [after, broken, frame]
    rfl

theorem announce_of_unshown (session : Session) {turn : Turn} {fault : Overflow}
    (unshown : Gauges.ofState session.kernel.definitions turn.state = .error fault) (line : String) :
    (session.complete turn line).announce = .error fault := by
  rw [announce, complete_kernel, complete_state, unshown]
  rfl

/-- A line whose turn succeeds fails nevertheless if the gauges cannot be shown. -/
theorem command_of_unshown {input : Option String} {line operator : String} (typed : Text.strip (input.getD "") = line)
    {turn : Turn} (ran : (session.turnOn line operator).outcome = .ok turn) {fault : Overflow}
    (unshown : Gauges.ofState session.kernel.definitions turn.state = .error fault) :
    (session.command input operator).1 = .error fault := by
  have untold := announce_of_unshown (session.ready line operator) unshown line
  rw [session.command_eq typed, ran]
  dsimp only
  rw [untold]

/-- A line that is answered is answered by its turn. -/
theorem turnOn_of_answered {input : Option String} {operator : String} {turn : Turn}
    (answered : (session.command input operator).1 = .ok turn) :
    (session.turnOn (Text.strip (input.getD "")) operator).outcome = .ok turn := by
  cases ran : (session.turnOn (Text.strip (input.getD "")) operator).outcome with
  | error fault => cases answered.symm.trans (halfway_of_fault rfl ran).1
  | ok taken =>
    cases shown : Gauges.ofState session.kernel.definitions taken.state with
    | error fault => cases answered.symm.trans (command_of_unshown rfl ran shown)
    | ok gauges =>
      have told : (session.command input operator).1 = .ok taken := congrArg Prod.fst (command_of_turn rfl ran shown)
      exact told.symm.trans answered

/-- A model that fails while the entropy is out of range fails the whole turn. -/
theorem turnOn_of_overflow (bare : session.kernel.catalog = none) {template : String}
    (prompt : session.kernel.prompt = .text template) (written : template ≠ "") {narrator : Narrator} {draws : Draws}
    (lent : session.sources = ⟨some narrator, draws⟩) {reason : String} {rest : List ModelReply}
    (script : narrator.replies = .failure reason :: rest) {n : Int} {fault : Overflow}
    (found : Fields.get? session.state Kernel.entropyMetric = some (.int n))
    (vast : (Value.int n).operand = .error fault) {line : String}
    (plain : Text.leads State.overrideCommand (Text.strip line) = false) (operator : String) :
    (session.turnOn line operator).outcome = .error fault := by
  unfold turnOn
  rw [Kernel.execute_free bare plain, lent]
  obtain ⟨reason, failed⟩ := Kernel.interpretFreely_of_failure prompt written script draws (Text.strip line)
    session.state session.store (((session.asked line).history "kernel").map ChatEntry.toValue) operator
  rw [failed, Kernel.dissonance, session.kernel.disturb_of_overflow found vast]
  rfl

/-- What a model proposes is taken over. -/
theorem turnOn_of_proposal (session : Session) (bare : session.kernel.catalog = none) {template : String}
    (prompt : session.kernel.prompt = .text template) (written : template ≠ "") {narrator : Narrator} {draws : Draws}
    (lent : session.sources = ⟨some narrator, draws⟩) {items : List OutputItem} {rest : List ModelReply}
    (script : narrator.replies = .output items :: rest) {text : String} (told : Narrator.outputText items = .ok text)
    {proposal : Narrator.Proposal} (read : Narrator.proposalOf text = .ok proposal) {line : String}
    (plain : Text.leads State.overrideCommand (Text.strip line) = false) {turns : List ModelMessage}
    (known : ModelMessage.ofHistory (((session.asked line).history "kernel").map ChatEntry.toValue) = .ok turns)
    (operator : String) :
    ∃ later : Narrator, later.replies = rest ∧ session.turnOn line operator =
      ⟨.ok ⟨.model, proposal.narrative.display, Kernel.adopt session.state proposal.newState, session.store, none, []⟩,
        session.state, session.store, ⟨some later, draws⟩, []⟩ := by
  have spoken : ((session.asked line).history "kernel").map ChatEntry.toValue ≠ [] := by
    rw [asked, history_say, if_pos rfl]
    simp
  obtain ⟨later, left, answered⟩ := Kernel.interpretFreely_of_proposal prompt written script told read spoken known
    draws (Text.strip line) session.state session.store operator
  refine ⟨later, left, ?_⟩
  rw [turnOn, Kernel.execute_free bare plain, lent]
  exact answered

/-- Unless the catalog or a proposal of the model brings a whole number beyond the range of floating point
numbers, every line for the kernel completes its turn, after whatever has happened to the session, and the
kernel's history is made of lines with their answers. -/
theorem turns_complete {store : Store} {sources : Sources} {now : String} {notices : List Notice}
    (started : start store sources now = .ok (session, notices)) (literals : session.kernel.Fits)
    (lent : sources.Fit) {operations : List Operation} (later : ∀ sources, .lend sources ∈ operations → sources.Fit) :
    let current := session.afterAll operations
    Alternates (current.history "kernel") ∧ ∀ input operator,
      ∃ turn, (current.command input operator).1 = .ok turn ∧
        Completed current (current.after (.command input operator)) (Text.strip (input.getD "")) turn := by
  intro current
  have empty : session.history "kernel" = [] := by
    rw [history, (begun_of_start started).histories]
    rfl
  have alternates : Alternates (session.history "kernel") := by
    rw [empty]
    exact .nil
  obtain ⟨fits, alternates⟩ := (fits_of_start started literals lent).afterAll alternates later
  exact ⟨alternates, fun input operator => (fits.command input operator).1⟩

/-- A line for a command and then a model that fails. -/
def probeOperations : List Operation :=
  [.command (some "probe") "Send", .lend ⟨some ⟨"m", 1, [.failure "down"], []⟩, ⟨[]⟩⟩]

theorem turns_complete_probe :
    Alternates ((probeSession.afterAll probeOperations).history "kernel") ∧
      ∃ turn, ((probeSession.afterAll probeOperations).command (some "hello") "Send").1 = .ok turn ∧
        Completed (probeSession.afterAll probeOperations)
          ((probeSession.afterAll probeOperations).after (.command (some "hello") "Send"))
          (Text.strip ((some "hello").getD "")) turn := by
  have literals : probeSession.kernel.Fits := by
    intro catalog loaded change member
    cases loaded
    cases List.mem_singleton.mp member
    intro literal same
    cases same
    exact ⟨1.0, by decide⟩
  have noDraws : Draws.Fit ⟨[]⟩ := List.forall_mem_nil _
  have lent : Sources.Fit ⟨none, ⟨[]⟩⟩ := ⟨by rintro _ ⟨⟩, noDraws⟩
  have later : ∀ sources, .lend sources ∈ probeOperations → sources.Fit := by
    intro sources member
    rcases List.mem_pair.mp member with same | same
    · cases same
    · cases same
      refine ⟨?_, noDraws⟩
      intro narrator same
      cases same
      intro reply script
      cases List.mem_singleton.mp script
      rintro _ _ _ ⟨⟩
  obtain ⟨alternates, whole⟩ := turns_complete start_probeStore literals lent later
  exact ⟨alternates, whole (some "hello") "Send"⟩

/-- A bootstrap with the entropy metric and a prompt. -/
def strainedBootstrap : Value :=
  .object [
    ("SYSTEM_STATE_METRICS", .object [("metrics", .list [.object [("id", .text "chaotic_entropy")]])]),
    ("EMBEDDED_SYSTEM_PROMPTS", .object [("protocols", .object [("LIA_OS", .object [
      ("prompt_template", .text "S")])])])]

def strainedStore : Store := [(bootstrapPath, .text (Json.render .compact 0 strainedBootstrap))]

/-- A proposal of a whole number beyond the range of floating point numbers. -/
def vastProposal : List Char :=
  "\x7b\"narrative\":\"ok\",\"newState\":\x7b\"chaotic_entropy\":1".toList ++ List.replicate 309 '0' ++
    "\x7d\x7d".toList

/-- What a model says when it makes this proposal. -/
def vastOutput : List OutputItem :=
  [⟨some "message", some [⟨some "output_text", some (.text (String.ofList vastProposal))⟩]⟩]

/-- A model that makes this proposal and then fails. -/
def vastNarrator : Narrator :=
  ⟨"m", 1, [.output vastOutput, .failure "down"], []⟩

def strainedSession : Session := {
  store := strainedStore, sources := ⟨some vastNarrator, ⟨[]⟩⟩
  kernel := ⟨none, [.metric ⟨"chaotic_entropy", "", 0.0, (0.0, 1.0), "", none, none⟩], .text "S"⟩
  state := [("chaotic_entropy", .float 0.0)]
  histories := historyKeys.map fun key => (key, [])
  events := [], log := [⟨"09:00", "session", "Kernel online."⟩], lastAction := "", now := "09:00" }

theorem parse_strainedBootstrap :
    Json.parse (Json.render .compact 0 strainedBootstrap) = .ok strainedBootstrap := by
  decide +kernel

/-- The session begins the same way with any model. -/
theorem start_strained (sources : Sources) :
    start strainedStore sources "09:00" = .ok ({ strainedSession with sources := sources }, [noCatalogNotice]) := by
  have loaded : Definition.load strainedBootstrap = .ok strainedSession.kernel.definitions := rfl
  exact start_alone parse_strainedBootstrap loaded rfl sources "09:00"

theorem start_strainedStore :
    start strainedStore ⟨some vastNarrator, ⟨[]⟩⟩ "09:00" = .ok (strainedSession, [noCatalogNotice]) :=
  start_strained ⟨some vastNarrator, ⟨[]⟩⟩

theorem outputText_vast : Narrator.outputText vastOutput = .ok (String.ofList vastProposal) :=
  Narrator.outputText_spoken (by decide +kernel)

theorem proposalOf_vast :
    ∃ proposal, Narrator.proposalOf (String.ofList vastProposal) = .ok proposal ∧
      proposal.newState = [("chaotic_entropy", .int (10 ^ 309))] := by
  have read : (Json.document vastProposal).toOption = some (.object [
      ("narrative", .text "ok"), ("newState", .object [("chaotic_entropy", .int (10 ^ 309))])]) := by
    decide +kernel
  exact ⟨_, Narrator.proposalOf_of_document read rfl (by decide) rfl, rfl⟩

theorem plain_hello : Text.leads State.overrideCommand (Text.strip "hello") = false := by
  decide +kernel

theorem ofHistory_hello : ModelMessage.ofHistory [(ChatEntry.of .user "hello").toValue] = .ok [⟨"user", "hello"⟩] := by
  decide +kernel

/-- What a model proposes on the first line is taken over. -/
theorem turnOn_strained_of_proposal {narrator : Narrator} {items : List OutputItem} {rest : List ModelReply}
    (script : narrator.replies = .output items :: rest) {text : String} (told : Narrator.outputText items = .ok text)
    {proposal : Narrator.Proposal} (read : Narrator.proposalOf text = .ok proposal) :
    ∃ turn later, turn.state = Kernel.adopt strainedSession.state proposal.newState ∧ later.replies = rest ∧
      { strainedSession with sources := ⟨some narrator, ⟨[]⟩⟩ }.turnOn "hello" "Send" =
        ⟨.ok turn, strainedSession.state, strainedSession.store, ⟨some later, ⟨[]⟩⟩, []⟩ := by
  have prompt : strainedSession.kernel.prompt = .text "S" := rfl
  obtain ⟨later, left, step⟩ := turnOn_of_proposal { strainedSession with sources := ⟨some narrator, ⟨[]⟩⟩ } rfl prompt
    (by decide) rfl script told read plain_hello ofHistory_hello "Send"
  exact ⟨_, later, rfl, left, step⟩

/-- The proposal is taken over in the first turn. -/
theorem turnOn_strained :
    ∃ turn later, (strainedSession.turnOn "hello" "Send").outcome = .ok turn ∧
      turn.state = [("chaotic_entropy", .int (10 ^ 309))] ∧ later.replies = [.failure "down"] ∧
      (strainedSession.turnOn "hello" "Send").sources = ⟨some later, ⟨[]⟩⟩ := by
  have script : vastNarrator.replies = .output vastOutput :: [.failure "down"] := rfl
  obtain ⟨proposal, read, proposed⟩ := proposalOf_vast
  obtain ⟨turn, later, adopted, left, step⟩ := turnOn_strained_of_proposal script outputText_vast read
  have ran : strainedSession.turnOn "hello" "Send" =
      ⟨.ok turn, strainedSession.state, strainedSession.store, ⟨some later, ⟨[]⟩⟩, []⟩ := step
  rw [proposed] at adopted
  rw [ran]
  exact ⟨turn, later, rfl, adopted, left, rfl⟩

theorem vast_exceeds : (Value.int (10 ^ 309)).operand = .error {} := by
  decide +kernel

/-- The session after the proposal. -/
def strainedLater : Session := strainedSession.after (.command (some "hello") "Send")

theorem strip_hello : Text.strip ((some "hello").getD "") = "hello" := by
  decide +kernel

theorem strip_again : Text.strip ((some "again").getD "") = "again" := by
  decide +kernel

theorem strainedLater_adopted :
    strainedLater.kernel = strainedSession.kernel ∧ strainedLater.state = [("chaotic_entropy", .int (10 ^ 309))] ∧
      ∃ later : Narrator, strainedLater.sources = ⟨some later, ⟨[]⟩⟩ ∧ later.replies = [.failure "down"] := by
  obtain ⟨turn, later, ran, adopted, left, lent⟩ := turnOn_strained
  obtain ⟨state, sources⟩ := taken_of_turn strip_hello ran
  exact ⟨kernel_after _ _, state.trans adopted, later, sources.trans lent, left⟩

/-- A session takes over a whole number that the model proposes and that is out of range. When the model fails
on the next line, nobody answers it. -/
theorem vast_entropy_breaks_turn :
    start strainedStore ⟨some vastNarrator, ⟨[]⟩⟩ "09:00" = .ok (strainedSession, [noCatalogNotice]) ∧
      (strainedLater.command (some "again") "Send").1 = .error {} ∧
      (strainedLater.after (.command (some "again") "Send")).history "kernel" =
        strainedLater.history "kernel" ++ [ChatEntry.of .user "again"] ∧
      (strainedLater.after (.command (some "again") "Send")).log = strainedLater.log ∧
      (strainedLater.after (.command (some "again") "Send")).events = strainedLater.events := by
  obtain ⟨kernel, state, later, lent, script⟩ := strainedLater_adopted
  have bare : strainedLater.kernel.catalog = none := congrArg Kernel.catalog kernel
  have prompt : strainedLater.kernel.prompt = .text "S" := congrArg Kernel.prompt kernel
  have found : Fields.get? strainedLater.state Kernel.entropyMetric = some (.int (10 ^ 309)) :=
    congrArg (fun state => Fields.get? state Kernel.entropyMetric) state
  have plain : Text.leads State.overrideCommand (Text.strip "again") = false := by decide +kernel
  have failed := turnOn_of_overflow bare prompt (by decide) lent script found vast_exceeds plain "Send"
  exact ⟨start_strainedStore, halfway_of_fault strip_again failed⟩

end Workbench.Session
