import Workbench.Proofs.Session.Turn

namespace Workbench.Session

theorem bounded_isSuffix (log : List LogEntry) : bounded log <:+ log :=
  List.drop_suffix _ log

theorem length_bounded (log : List LogEntry) : (bounded log).length = min log.length logLimit := by
  rw [bounded, List.length_drop]
  omega

variable {session : Session}

/-- The log records of a line, by what has become of its turn: a turn that fails has none. -/
def recordsOn (session : Session) (line : String) : Except Overflow Turn → List LogEntry
  | .ok turn => session.recordsOf turn line
  | .error _ => []

/-- The log records that an operation makes: a line for the kernel those of its turn, a monologue one, if the portal
exists, and anything else none. -/
def made (session : Session) : Operation → List LogEntry
  | .command input operator =>
    let line := Text.strip (input.getD "")
    session.recordsOn line (session.turnOn line operator).outcome
  | .monologue portal => if portals.contains portal then [⟨session.now, portal, "monologue"⟩] else []
  | .shell _ | .snapshot | .tree | .drain | .lend _ | .clock _ => []

/-- The log records that operations make, the first one first. -/
def madeAll (session : Session) : List Operation → List LogEntry
  | [] => []
  | operation :: rest => session.made operation ++ (session.after operation).madeAll rest

theorem made_of_answered {input : Option String} {operator : String} {turn : Turn}
    (answered : (session.command input operator).1 = .ok turn) :
    session.made (.command input operator) = session.recordsOf turn (Text.strip (input.getD "")) := by
  rw [made, turnOn_of_answered answered, recordsOn]

section Records

variable {records : List LogEntry}

theorem log_command (kept : session.log = bounded records) (input : Option String) (operator : String) :
    (session.after (.command input operator)).log =
      bounded (records ++ session.made (.command input operator)) := by
  rcases session.command_cases input operator with ⟨fault, failed, same⟩ | ⟨turn, events, ran, same⟩
  · have left : (session.after (.command input operator)).log =
        (session.ready (Text.strip (input.getD "")) operator).log := congrArg log same
    rw [left, log_ready, kept, made, failed, recordsOn, List.append_nil]
  · -- Only the events depend on whether the views are told.
    have left : (session.after (.command input operator)).log =
        ((session.ready (Text.strip (input.getD "")) operator).complete turn (Text.strip (input.getD ""))).log := by
      rw [after, same]
      rfl
    rw [made, ran, recordsOn, left, log_complete, log_ready, recordsOf_ready, kept, bounded_append]

/-- An operation puts the records that it makes at the end of the log, which keeps within its bound. -/
theorem log_after (kept : session.log = bounded records) (operation : Operation) :
    (session.after operation).log = bounded (records ++ session.made operation) := by
  cases operation with
  | command input operator => exact log_command kept input operator
  | shell input =>
    rw [made, List.append_nil]
    rcases session.shell_cases input with same | ⟨_, _, same⟩
    · rw [same]
      exact kept
    · rw [same]
      exact kept
  | monologue portal =>
    rcases session.monologue_cases portal with ⟨unknown, same⟩ | ⟨known, entry, sources, _, same⟩
    · rw [made, unknown, if_neg Bool.false_ne_true, List.append_nil, after, same]
      exact kept
    · rw [made, known, if_pos rfl, ← bounded_append, ← kept, after, same]
      rfl
  | snapshot | tree | drain | lend _ | clock _ =>
    rw [made, List.append_nil]
    exact kept

theorem log_afterAll (kept : session.log = bounded records) (operations : List Operation) :
    (session.afterAll operations).log = bounded (records ++ session.madeAll operations) := by
  induction operations generalizing session records with
  | nil =>
    rw [madeAll, List.append_nil]
    exact kept
  | cons operation rest ih =>
    rw [madeAll, ← List.append_assoc]
    exact ih (log_after kept operation)

end Records

/-- What the moments of a run come to for the session: the operations from outside and a monologue for each portal
that is served, the first one first. -/
inductive AmountsTo : List (Moment Session) → List Operation → Prop
  | nothing : AmountsTo [] []
  | outside {past moment operations} (earlier : AmountsTo past operations) (operation : Operation)
      (changed : moment.move = .change (moment.exchange.state.source.after operation)) :
      AmountsTo (moment :: past) (operations ++ [operation])
  | inside {past moment operations} (earlier : AmountsTo past operations)
      (unchanged : ∀ session, moment.move ≠ .change session) :
      AmountsTo (moment :: past) (operations ++ (moment.served?.map fun request => .monologue request.1).toList)

theorem exists_amountsTo {first exchange : Exchange Session} {past : List (Moment Session)}
    (run : Run authority Operates first past exchange) :
    ∃ operations, AmountsTo past operations ∧ exchange.state.source = first.state.source.afterAll operations := by
  induction run with
  | start => exact ⟨[], .nothing, rfl⟩
  | @next past exchange move previous operates ih =>
    obtain ⟨operations, earlier, same⟩ := ih
    by_cases changed : ∃ session, move = .change session
    · obtain ⟨session, rfl⟩ := changed
      obtain ⟨operation, next⟩ := operates session rfl
      refine ⟨operations ++ [operation], earlier.outside operation (congrArg Move.change next), ?_⟩
      rw [afterAll_concat, ← same]
      exact next
    · have unchanged : ∀ session, move ≠ .change session := fun session same => changed ⟨session, same⟩
      refine ⟨_, earlier.inside unchanged, ?_⟩
      have step := @source_served ⟨exchange, move⟩ unchanged
      rw [Moment.after] at step
      rw [step]
      cases Moment.served? ⟨exchange, move⟩ with
      | none => rw [Option.map_none, Option.toList_none, List.append_nil, same]
      | some request => rw [Option.map_some, Option.toList_some, afterAll_concat, same]

/-- The log of a session is the tail of the records made since it began: all of them, or the last hundred. A line
makes its records when its turn is taken over, before the views are told. This holds after any operations, and
what goes on between the primary of a session and its portals comes to operations too. -/
theorem log_is_tail {store : Store} {sources : Sources} {now : String} {notices : List Notice}
    (started : start store sources now = .ok (session, notices)) :
    (∀ operations,
      let current := session.afterAll operations
      let records := ⟨now, "session", "Kernel online."⟩ :: session.madeAll operations
      current.log <:+ records ∧ current.log.length = min records.length 100 ∧ current.snapshot.log.length ≤ 100 ∧
        ∀ input operator turn, (current.command input operator).1 = .ok turn →
          current.made (.command input operator) = current.recordsOf turn (Text.strip (input.getD ""))) ∧
    ∀ first exchange past, first.state.source = session → Run authority Operates first past exchange →
      ∃ operations, AmountsTo past operations ∧ exchange.state.source = session.afterAll operations := by
  constructor
  · intro operations current records
    have log : current.log = bounded records := log_afterAll (begun_of_start started).log operations
    have length : current.log.length = min records.length 100 := by
      rw [log]
      exact length_bounded records
    refine ⟨?_, length, ?_, fun input operator turn answered => made_of_answered answered⟩
    · rw [log]
      exact bounded_isSuffix records
    · have shown : current.snapshot.log.length = current.log.length := List.length_map _
      rw [shown, length]
      exact Nat.min_le_right _ _
  · rintro first exchange past rfl run
    exact exists_amountsTo run

/-- A line for a command, and then as many monologues as the log has room for. -/
def talk : List Operation :=
  .command (some "probe") "Send" :: List.replicate 100 (.monologue "pupa")

theorem madeAll_talk : probeSession.madeAll talk =
    ⟨"09:00", "kernel", "probe"⟩ :: List.replicate 100 ⟨"09:00", "pupa", "monologue"⟩ := by
  decide +kernel

theorem log_is_tail_talk :
    let run := (Exchange.make "lab" probeSession []).trace authority bareRequest
    (probeSession.afterAll talk).log = List.replicate 100 ⟨"09:00", "pupa", "monologue"⟩ ∧
      (∃ turn, (probeSession.command (some "probe") "Send").1 = .ok turn ∧
        probeSession.made (.command (some "probe") "Send") =
          probeSession.recordsOf turn (Text.strip ((some "probe").getD ""))) ∧
      ∃ operations, AmountsTo run.1 operations ∧ run.2.state.source = probeSession.afterAll operations := by
  intro run
  obtain ⟨tails, comes⟩ := log_is_tail start_probeStore
  refine ⟨?_, ?_, ?_⟩
  · obtain ⟨tail, length, _⟩ := tails talk
    rw [madeAll_talk] at tail length
    have spoken : List.replicate 100 ⟨"09:00", "pupa", "monologue"⟩ <:+
        (⟨"09:00", "session", "Kernel online."⟩ :: ⟨"09:00", "kernel", "probe"⟩ ::
          List.replicate 100 ⟨"09:00", "pupa", "monologue"⟩ : List LogEntry) := List.suffix_append [_, _] _
    have same : (probeSession.afterAll talk).log.length =
        (List.replicate 100 (⟨"09:00", "pupa", "monologue"⟩ : LogEntry)).length := length
    exact (List.suffix_of_suffix_length_le tail spoken same.le).eq_of_length same
  · have done : (probeSession.command (some "probe") "Send").1.isOk = true := by decide +kernel
    obtain ⟨_, _, _, made⟩ := tails []
    cases answered : (probeSession.command (some "probe") "Send").1 with
    | error fault =>
      rw [answered] at done
      cases done
    | ok turn => exact ⟨turn, rfl, made (some "probe") "Send" turn answered⟩
  · have operates : ∀ moment ∈ run.1, Operates moment := by
      simp [run, bareRequest, Exchange.trace, Operates]
    exact comes _ _ _ rfl (Run.of_trace operates)

/-- A bootstrap with a prompt and the entropy metric on a scale without an upper end. -/
def endlessBootstrap : Value :=
  .object [
    ("SYSTEM_STATE_METRICS", .object [("metrics", .list [.object [
      ("id", .text "chaotic_entropy"), ("range", .list [.float 0.0, .float (1.0 / 0.0)])]])]),
    ("EMBEDDED_SYSTEM_PROMPTS", .object [("protocols", .object [("LIA_OS", .object [
      ("prompt_template", .text "S")])])])]

def endlessStore : Store := [(bootstrapPath, .text (Json.render .compact 0 endlessBootstrap))]

def endlessSession : Session := {
  store := endlessStore, sources := ⟨some vastNarrator, ⟨[]⟩⟩
  kernel := ⟨none, [.metric ⟨"chaotic_entropy", "", 0.0, (0.0, 1.0 / 0.0), "", none, none⟩], .text "S"⟩
  state := [("chaotic_entropy", .float 0.0)]
  histories := historyKeys.map fun key => (key, [])
  events := [], log := [⟨"09:00", "session", "Kernel online."⟩], lastAction := "", now := "09:00" }

theorem parse_endlessBootstrap :
    Json.parse (Json.render .compact 0 endlessBootstrap) = .ok endlessBootstrap := by
  decide +kernel

theorem start_endlessStore :
    start endlessStore ⟨some vastNarrator, ⟨[]⟩⟩ "09:00" = .ok (endlessSession, [noCatalogNotice]) := by
  have loaded : Definition.load endlessBootstrap = .ok endlessSession.kernel.definitions := rfl
  exact start_alone parse_endlessBootstrap loaded rfl _ "09:00"

/-- The gauge of a whole number beyond the range of floating point numbers has no place on an endless scale. -/
theorem unshown_vast :
    Gauges.ofState endlessSession.kernel.definitions [("chaotic_entropy", .int (10 ^ 309))] = .error {} := by
  decide +kernel

/-- A line fails because the gauges cannot be shown, and yet its record is in the log: the turn was taken over
before. -/
theorem untold_line_is_recorded :
    start endlessStore ⟨some vastNarrator, ⟨[]⟩⟩ "09:00" = .ok (endlessSession, [noCatalogNotice]) ∧
      (endlessSession.command (some "hello") "Send").1 = .error {} ∧
      (endlessSession.after (.command (some "hello") "Send")).log =
        [⟨"09:00", "session", "Kernel online."⟩, ⟨"09:00", "kernel", "hello"⟩] := by
  have prompt : endlessSession.kernel.prompt = .text "S" := rfl
  have script : vastNarrator.replies = .output vastOutput :: [.failure "down"] := rfl
  obtain ⟨proposal, read, proposed⟩ := proposalOf_vast
  obtain ⟨later, _, step⟩ := turnOn_of_proposal endlessSession rfl prompt (by decide) rfl script outputText_vast read
    plain_hello ofHistory_hello "Send"
  have ran := congrArg KernelStep.outcome step
  rw [proposed] at ran
  refine ⟨start_endlessStore, command_of_unshown strip_hello ran unshown_vast, ?_⟩
  have kept : endlessSession.log = bounded endlessSession.log := rfl
  rw [log_command kept, made, strip_hello, ran]
  rfl

end Workbench.Session
