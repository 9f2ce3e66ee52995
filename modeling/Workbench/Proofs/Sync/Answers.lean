import Workbench.Proofs.Sync.Gate
import Workbench.Proofs.Sync.InStep
import Workbench.Proofs.Sync.LifeCycle
import Workbench.Proofs.Sync.Order

namespace Workbench

variable {σ ε : Type}

/-- Histories as a value. -/
def Value.ofHistories (histories : Fields (List (Fields Value))) : Value :=
  .object (histories.mapValues fun history => .list (history.map .object))

/-- A source that keeps what it promises: it always has a snapshot that can be sent, and an action that does not fail
returns histories in the terms of JSON. -/
structure Authority.Proper (authority : Authority σ ε) : Prop where
  snapshot : ∀ source, ∃ snapshot sent, authority.snapshot source = .ok snapshot ∧ snapshot.plain = .ok sent
  act : ∀ portal payload source value, (authority.act portal payload source).1 = .ok value →
    value.isJson = true ∧ ∃ histories, value = .ofHistories histories

/-- The answers to a message: the snapshot of the source to an announcement, what its action returns to a request,
and nothing in the place of histories if the action fails. -/
inductive Authority.Answers (authority : Authority σ ε) (source : σ) : Message → Message → Prop
  | ready {portal snapshot sent} : authority.snapshot source = .ok snapshot → snapshot.plain = .ok sent →
      Answers authority source (.ready portal) (.update sent)
  | served {payload portal histories} :
      (authority.act (Primary.addressee portal) payload source).1 = .ok (.ofHistories histories) →
      Answers authority source (.request payload portal) (.response histories (some (Primary.addressee portal)))
  | failed {payload portal text} : (authority.act (Primary.addressee portal) payload source).1 = .error text →
      Answers authority source (.request payload portal) (.response [] (some (Primary.addressee portal)))

/-- The announcement or request that data holds. -/
def Primary.question? (data : Value) : Option Message :=
  (Message.parse data).toOption.filter fun message => message.isReady || message.isRequest

/-- A primary that has answered one more question. -/
def Primary.credit (primary : Primary) : Message → Primary
  | .ready _ => { primary with snapshots := primary.snapshots + 1 }
  | .request .. => { primary with actions := primary.actions + 1 }
  | _ => primary

/-- The data that a job has the primary work on. -/
def Job.unanswered? : Job Listener Duty → Option Value
  | .work (.answer data) => some data
  | _ => none

/-- What a deed posts in the name of the primary. -/
def Deed.primaryPost? : Deed Listener Duty → Option Value
  | .post data (some .primary) => some data
  | _ => none

namespace Moment

/-- Whether the primary is not told to send a snapshot unasked. -/
def Unprompted (moment : Moment σ) : Prop :=
  ∀ given, moment.move ≠ .broadcast given

/-- The data that reaches the primary. -/
def heard? (moment : Moment σ) : Option Value :=
  match moment.job? with
  | some (.delivery .primary data) => if .primary ∈ moment.exchange.loop.listeners then some data else none
  | _ => none

/-- The source and the question that the primary answers. -/
def question? (moment : Moment σ) : Option (σ × Message) :=
  (moment.answered?.bind Primary.question?).map fun message => (moment.exchange.state.source, message)

/-- All that is posted in the name of the primary, but from outside. -/
def posts (authority : Authority σ ε) (moment : Moment σ) : List Value :=
  match moment.move with
  | .post .. => []
  | _ => (moment.deeds authority).filterMap Deed.primaryPost?

end Moment

/-! ## One answer -/

theorem Message.plainHistories_of_isJson {histories : Fields (List (Fields Value))}
    (json : (Value.ofHistories histories).isJson = true) : plainHistories histories = .ok histories := by
  have whole : plainMembers (histories.mapValues fun history => .list (history.map .object)) =
      .ok (histories.mapValues fun history => .list (history.map .object)) :=
    plainMembers_of_areJson (by simpa only [Value.ofHistories, Value.isJson] using json)
  obtain ⟨sent, made, same⟩ := Except.map_eq_ok.mp ((plainMembers_histories histories).symm.trans whole)
  have read := Schema.dictionary_histories sent
  rw [same, Schema.dictionary_histories] at read
  cases read
  exact made

/-- What a request is answered with, in the terms of JSON already. -/
theorem Authority.Proper.histories {authority : Authority σ ε} (proper : authority.Proper) (payload : String)
    (portal : Option String) (source : σ) :
    ∃ histories, authority.histories (Primary.addressee portal) payload source = .ofHistories histories ∧
      Message.plainHistories histories = .ok histories ∧
      authority.Answers source (.request payload portal) (.response histories (some (Primary.addressee portal))) := by
  unfold Authority.histories
  cases acted : (authority.act (Primary.addressee portal) payload source).1 with
  | error text => exact ⟨[], rfl, rfl, .failed acted⟩
  | ok value =>
    obtain ⟨json, histories, rfl⟩ := proper.act _ _ _ _ acted
    exact ⟨histories, rfl, Message.plainHistories_of_isJson json, .served acted⟩

namespace Primary

theorem serve_snapshot {authority : Authority σ ε} (primary : Primary) {source : σ} {snapshot sent : Snapshot}
    (taken : authority.snapshot source = .ok snapshot) (made : snapshot.plain = .ok sent) :
    primary.serve authority source .snapshot =
      ⟨{ primary with snapshots := primary.snapshots + 1 }, source, [], .ok (some (Message.update sent).toValue)⟩ := by
  have arrives : (Message.update snapshot).sent = .ok (.update sent) := by simp only [Message.sent, made, Except.map]
  have dumped : (Message.update snapshot).dump = .ok (Message.update sent).toValue :=
    Message.dump_eq_ok.mpr ⟨_, arrives, rfl⟩
  simp only [serve, Chore.perform, reply, send, update, taken, dumped, Except.mapError, Except.map, bind, Except.bind]
  rfl

theorem serve_action {authority : Authority σ ε} (primary : Primary) {source : σ} {payload portal : String}
    {histories : Fields (List (Fields Value))}
    (acted : authority.histories portal payload source = .ofHistories histories)
    (made : Message.plainHistories histories = .ok histories) :
    (primary.serve authority source (.action portal payload)).answer =
        .ok (some (Message.response histories (some portal)).toValue) ∧
      (primary.serve authority source (.action portal payload)).primary =
        { primary with actions := primary.actions + 1 } := by
  have arrives : (Message.response histories (some portal)).sent = .ok (.response histories (some portal)) := by
    simp only [Message.sent, made, Except.map]
  have dumped : (Message.response histories (some portal)).dump =
      .ok (Message.response histories (some portal)).toValue := Message.dump_eq_ok.mpr ⟨_, arrives, rfl⟩
  have valid : Schema.dictionary (Schema.list Schema.anyObject) (.ofHistories histories) = .valid histories :=
    Schema.dictionary_histories histories
  have responded : (response (authority.histories portal payload source) portal : Except (PrimaryFault ε) Value) =
      .ok (Message.response histories (some portal)).toValue := by
    rw [acted]
    simp only [response, valid, Checked.toExcept, Except.mapError, bind, Except.bind, dumped]
  unfold Authority.histories at responded
  simp only [serve, Chore.perform_action, reply]
  cases result : (authority.act portal payload source).1 with
  | ok value =>
    rw [result, historiesOf] at responded
    simp only [responded]
    exact ⟨rfl, trivial⟩
  | error text =>
    rw [result, historiesOf] at responded
    simp only [responded]
    exact ⟨rfl, trivial⟩

/-- A question is answered once and counted once, and all else is neither answered nor counted. -/
theorem answer_cases {authority : Authority σ ε} (proper : authority.Proper) (primary : Primary) (source : σ)
    (data : Value) :
    (question? data = none ∧ (primary.answer authority source data).answer = .ok none ∧
      (primary.answer authority source data).primary = primary) ∨
      ∃ message reply, question? data = some message ∧ authority.Answers source message reply ∧
        (primary.answer authority source data).answer = .ok (some reply.toValue) ∧
        (primary.answer authority source data).primary = primary.credit message := by
  unfold answer question?
  cases Message.parse data with
  | error fault => exact Or.inl ⟨rfl, rfl, rfl⟩
  | ok message =>
    cases message with
    | ready portal =>
      obtain ⟨snapshot, sent, taken, made⟩ := proper.snapshot source
      have answered := primary.serve_snapshot taken made
      exact Or.inr ⟨_, .update sent, rfl, .ready taken made, congrArg PrimaryOutcome.answer answered,
        congrArg PrimaryOutcome.primary answered⟩
    | request payload portal =>
      obtain ⟨histories, acted, made, answers⟩ := proper.histories payload portal source
      have answered := primary.serve_action acted made
      exact Or.inr ⟨_, .response histories (some (addressee portal)), rfl, answers, answered.1, answered.2⟩
    | update snapshot | response histories portal | closing portal => exact Or.inl ⟨rfl, rfl, rfl⟩

end Primary

/-! ## A moment -/

theorem Job.unanswered?_eq_some {job : Job Listener Duty} {data : Value} :
    job.unanswered? = some data ↔ job = .work (.answer data) := by
  cases job with
  | work duty => cases duty <;> simp [unanswered?]
  | _ => simp [unanswered?]

namespace PortalDeed

theorem primaryPost?_of_toLoop {id : String} {act : PortalDeed} {deed : Deed Listener Duty}
    (member : deed ∈ act.toLoop id) : deed.primaryPost? = none := by
  cases act with
  | send message =>
    simp only [toLoop] at member
    split at member
    · rw [List.mem_singleton.mp member]
      rfl
    · cases member
  | draw drawing => cases member
  | join | leave | note notice | shake | shakeAfter span | alarm span action =>
    rw [List.mem_singleton.mp member]
    rfl

theorem primaryPosts_flatMap (id : String) (acts : List PortalDeed) :
    (acts.flatMap (toLoop id)).filterMap Deed.primaryPost? = [] := by
  rw [List.filterMap_eq_nil_iff]
  intro deed member
  obtain ⟨act, _, leads⟩ := List.mem_flatMap.mp member
  exact primaryPost?_of_toLoop leads

end PortalDeed

theorem Parties.primaryPosts_takePrimary (parties : Parties σ) (outcome : PrimaryOutcome σ ε) :
    (parties.takePrimary outcome).2.filterMap Deed.primaryPost? =
      match outcome.answer with
      | .ok answer => answer.toList
      | .error _ => [] := by
  have notes : (outcome.notices.map (.note : Notice → Deed Listener Duty)).filterMap Deed.primaryPost? = [] := by
    rw [List.filterMap_map, List.filterMap_eq_nil_iff]
    intro notice _
    rfl
  rw [takePrimary, List.filterMap_append, notes, List.nil_append]
  cases outcome.answer with
  | error fault => rfl
  | ok answer => cases answer <;> rfl

namespace Moment

theorem heard?_eq_some {moment : Moment σ} {data : Value} :
    moment.heard? = some data ↔
      moment.job? = some (.delivery .primary data) ∧ .primary ∈ moment.exchange.loop.listeners := by
  unfold heard?
  constructor
  · intro heard
    split at heard
    · rename_i running
      split at heard
      · rename_i listening
        cases heard
        exact ⟨running, listening⟩
      · cases heard
    · cases heard
  · rintro ⟨running, listening⟩
    simp only [running, if_pos listening]

theorem answered?_eq (moment : Moment σ) : moment.answered? = moment.job?.bind Job.unanswered? := by
  unfold answered?
  cases moment.job? with
  | none => rfl
  | some job =>
    cases job with
    | work duty => cases duty <;> rfl
    | _ => rfl

theorem primary_after (authority : Authority σ ε) {moment : Moment σ} (unprompted : moment.Unprompted) :
    (moment.after authority).state.primary =
      match moment.answered? with
      | none => moment.exchange.state.primary
      | some data =>
        (moment.exchange.state.primary.answer authority moment.exchange.state.source data).primary := by
  obtain ⟨⟨loop, state⟩, move⟩ := moment
  cases move with
  | change source | join listener | leave listener | clear | turn time => rfl
  | call id call =>
    simp only [after, Exchange.after, Exchange.call, answered?, job?]
    cases state.portals.get? id <;> rfl
  | post data sender =>
    simp only [after, Exchange.after, Exchange.post, Loop.post, answered?, job?]
    cases Json.obstacle? data <;> rfl
  | broadcast given => exact absurd rfl (unprompted given)
  | job =>
    obtain ⟨name, listeners, posted, tasks, queue, now, timers, notices⟩ := loop
    simp only [after, Exchange.after, Assembly.step?, answered?, job?]
    cases queue with
    | nil => rfl
    | cons job rest =>
      simp only [List.head?_cons, Option.getD_some, Assembly.run]
      cases job with
      | delivery listener data =>
        dsimp only
        split
        · cases listener with
          | observer | primary => rfl
          | portal id =>
            simp only [Assembly.take, Parties.party, Parties.hear]
            cases state.portals.get? id <;> rfl
        · rfl
      | work duty =>
        cases duty with
        | answer data => rfl
        | shake id | expire id action =>
          simp only [Assembly.take, Parties.party, Parties.resume]
          cases state.portals.get? id <;> rfl
      | rouse duty => rfl
      | ended failed => cases failed <;> rfl

/-- What the primary posts at a moment is the answer to the question that it works on. -/
theorem posts_eq (authority : Authority σ ε) {moment : Moment σ} (unprompted : moment.Unprompted) :
    moment.posts authority =
      match moment.answered? with
      | none => []
      | some data =>
        match (moment.exchange.state.primary.answer authority moment.exchange.state.source data).answer with
        | .ok answer => answer.toList
        | .error _ => [] := by
  obtain ⟨⟨loop, state⟩, move⟩ := moment
  cases move with
  | change source | join listener | leave listener | clear | turn time | post data sender => rfl
  | call id call =>
    simp only [posts, deeds, answered?, job?]
    cases state.portals.get? id with
    | none => rfl
    | some portal => exact PortalDeed.primaryPosts_flatMap id _
  | broadcast given => exact absurd rfl (unprompted given)
  | job =>
    simp only [posts, deeds, answered?, job?]
    cases loop.queue.head? with
    | none => rfl
    | some job =>
      cases job with
      | delivery listener data =>
        dsimp only
        split
        · cases listener with
          | observer | primary => rfl
          | portal id =>
            simp only [Parties.hear]
            cases state.portals.get? id with
            | none => rfl
            | some portal =>
              simp only [Parties.takePortal, List.filterMap_append, PortalDeed.primaryPosts_flatMap, List.nil_append]
              split <;> rfl
        · rfl
      | work duty =>
        cases duty with
        | answer data => exact Parties.primaryPosts_takePrimary state _
        | shake id | expire id action =>
          simp only [Parties.resume]
          cases state.portals.get? id with
          | none => rfl
          | some portal => exact PortalDeed.primaryPosts_flatMap id _
      | rouse duty => rfl
      | ended failed => cases failed <;> rfl

/-- At a moment the primary answers a question with one message, or it does and counts nothing. -/
theorem answer_cases {authority : Authority σ ε} (proper : authority.Proper) {moment : Moment σ}
    (unprompted : moment.Unprompted) :
    (moment.question? = none ∧ moment.posts authority = [] ∧
      (moment.after authority).state.primary = moment.exchange.state.primary) ∨
      ∃ message reply, moment.question? = some (moment.exchange.state.source, message) ∧
        authority.Answers moment.exchange.state.source message reply ∧ moment.posts authority = [reply.toValue] ∧
        (moment.after authority).state.primary = moment.exchange.state.primary.credit message := by
  rw [posts_eq authority unprompted, primary_after authority unprompted]
  unfold question?
  cases moment.answered? with
  | none => exact Or.inl ⟨rfl, rfl, rfl⟩
  | some data =>
    rcases Primary.answer_cases proper moment.exchange.state.primary moment.exchange.state.source data with
      ⟨none, answered, counted⟩ | ⟨message, reply, asked, answers, answered, counted⟩
    · refine Or.inl ⟨?_, ?_, counted⟩
      · rw [Option.bind_some, none]
        rfl
      · simp only [answered]
        rfl
    · refine Or.inr ⟨message, reply, ?_, answers, ?_, counted⟩
      · rw [Option.bind_some, asked]
        rfl
      · simp only [answered]
        rfl

/-- Only hearing a message gives the primary something to answer, but for what was put off. -/
theorem Origin.answer {authority : Authority σ ε} {moment : Moment σ} {deed : Deed Listener Duty}
    (origin : Origin authority moment deed) {data : Value} (leads : deed.LeadsTo (.work (.answer data))) :
    deed = .spawn (.answer data) ∧ moment.job? = some (.delivery .primary data) ∨
      moment.job? = some (.rouse (.answer data)) := by
  cases origin with
  | portal found own does =>
    rename_i act
    have follows := PortalDeed.leadsTo_of_toLoop does leads
    cases act <;> simp [PortalDeed.LeadsTo] at follows
  | heard running =>
    have same : Deed.Rushes _ _ := leads.resolve_right id
    cases same
    exact Or.inl ⟨rfl, running⟩
  | roused running =>
    have same : Deed.Rushes _ _ := leads.resolve_right id
    cases same
    exact Or.inr running
  | _ => simp [Deed.LeadsTo, Deed.Rushes, Deed.Delays] at leads

theorem awaits_ground {moment : Moment σ} {job : Job Listener Duty} (awaited : moment.ground.Awaits job) :
    moment.exchange.loop.Awaits job := by
  unfold ground at awaited
  split at awaited
  · exact awaited
  · obtain ⟨timer, member, same⟩ := awaited
    exact ⟨timer, (List.mem_filter.mp member).1, same⟩
  · split at awaited <;> exact awaited
  · exact awaited

end Moment

/-! ## A run -/

/-- Whether nothing that the primary has to answer is put off. -/
def Exchange.Immediate (exchange : Exchange σ) : Prop :=
  ∀ data, ¬ exchange.loop.Awaits (.work (.answer data)) ∧ ¬ exchange.loop.Pending (.rouse (.answer data))

theorem Exchange.Immediate.after {authority : Authority σ ε} {moment : Moment σ}
    (immediate : moment.exchange.Immediate) : (moment.after authority).Immediate := by
  intro data
  constructor
  · intro awaited
    rw [Moment.loop_after] at awaited
    rcases Loop.awaits_performAll awaited with old | ⟨deed, done, delays⟩
    · exact (immediate data).1 (Moment.awaits_ground old)
    · rcases (Moment.origin_of_mem done).answer (Or.inr delays) with ⟨rfl, _⟩ | running
      · exact delays
      · exact (immediate data).2 (Or.inl (List.mem_of_mem_head? (Moment.job?_eq_some.mp running).2))
  · intro pending
    rcases Moment.pending_after pending with before | ⟨deed, origin, leads⟩
    · exact (immediate data).2 before
    · obtain ⟨id, same⟩ := origin.rouse leads
      cases same

/-- What the primary hears is queued behind all that it has still to answer, and nothing else is. -/
theorem Moment.unanswered_after (authority : Authority σ ε) (moment : Moment σ)
    (immediate : moment.exchange.Immediate) :
    moment.exchange.loop.queue.filterMap Job.unanswered? ++ moment.heard?.toList =
      moment.answered?.toList ++ (moment.after authority).loop.queue.filterMap Job.unanswered? := by
  have timeless : ∀ job, moment.exchange.loop.Awaits job → job.unanswered? = none := by
    intro job awaited
    rw [Option.eq_none_iff_forall_ne_some]
    intro data works
    rw [Job.unanswered?_eq_some.mp works] at awaited
    exact (immediate data).1 awaited
  obtain ⟨jobs, whole, rushed⟩ := moment.ground.queue_performAll (moment.deeds authority)
  rw [moment.filterMap_ground Job.unanswered? timeless, ← answered?_eq, List.append_assoc, loop_after, whole,
    List.filterMap_append]
  congr 2
  cases heard : moment.heard? with
  | some data =>
    obtain ⟨running, listening⟩ := heard?_eq_some.mp heard
    obtain ⟨move, head⟩ := job?_eq_some.mp running
    have spawned : moment.deeds authority = [.spawn (.answer data)] := by
      simp only [deeds, move, head, if_pos listening, Parties.hear]
    rw [spawned] at whole
    have same : [.work (.answer data)] = jobs := List.append_cancel_left whole
    rw [← same]
    rfl
  | none =>
    symm
    rw [Option.toList_none, List.filterMap_eq_nil_iff]
    intro job member
    obtain ⟨deed, done, rushes⟩ := rushed job member
    rw [Option.eq_none_iff_forall_ne_some]
    intro data works
    rw [Job.unanswered?_eq_some.mp works] at rushes
    rcases (origin_of_mem done).answer (Or.inl rushes) with ⟨_, running⟩ | running
    · -- Whoever has left does nothing with a message.
      have unheard : .primary ∉ moment.exchange.loop.listeners := fun listening => by
        rw [heard?_eq_some.mpr ⟨running, listening⟩] at heard
        cases heard
      obtain ⟨move, head⟩ := job?_eq_some.mp running
      simp only [deeds, move, head, if_neg unheard] at done
      cases done
    · exact (immediate data).2 (Or.inl (List.mem_of_mem_head? (job?_eq_some.mp running).2))

/-- A primary that is not told to send anything unasked, and whose source keeps what it promises, hears messages of
all kinds: it works on each of them once, in the order in which they reach it; it answers each announcement with one
update and each request with one response to who asked, in that order, and nothing else; and it counts them. -/
theorem primary_answers {authority : Authority σ ε} (proper : authority.Proper) {name : String} {source : σ}
    {portals : Fields Portal} {past : List (Moment σ)} {exchange : Exchange σ}
    (run : Run authority Moment.Unprompted (.make name source portals) past exchange) :
    let questions := past.reverse.filterMap Moment.question?
    past.reverse.filterMap Moment.heard? =
        past.reverse.filterMap Moment.answered? ++ exchange.loop.queue.filterMap Job.unanswered? ∧
      List.Forall₂ (fun question posted => ∃ reply, authority.Answers question.1 question.2 reply ∧
        posted = reply.toValue) questions (past.reverse.flatMap (Moment.posts authority)) ∧
      exchange.state.primary.snapshots = (questions.filter fun question => question.2.isReady).length ∧
      exchange.state.primary.actions = (questions.filter fun question => question.2.isRequest).length := by
  have immediate {past : List (Moment σ)} {exchange : Exchange σ}
      (run : Run authority Moment.Unprompted (.make name source portals) past exchange) : exchange.Immediate := by
    refine run.invariant Exchange.Immediate ?_ fun moment _ immediate => immediate.after
    intro data
    constructor
    · rintro ⟨timer, member, _⟩
      cases member
    · rintro (member | ⟨timer, member, _⟩) <;> cases member
  induction run with
  | start => exact ⟨rfl, .nil, rfl, rfl⟩
  | @next past exchange move previous unprompted ih =>
    obtain ⟨heard, answers, snapshots, actions⟩ := ih
    have queue := Moment.unanswered_after authority ⟨exchange, move⟩ (immediate previous)
    have last {α : Type} (pick : Moment σ → Option α) : ((⟨exchange, move⟩ : Moment σ) :: past).reverse.filterMap pick =
        past.reverse.filterMap pick ++ (pick ⟨exchange, move⟩).toList := by
      rw [List.reverse_cons, List.filterMap_append, List.filterMap_cons, List.filterMap_nil]
      cases pick ⟨exchange, move⟩ <;> rfl
    have posts : ((⟨exchange, move⟩ : Moment σ) :: past).reverse.flatMap (Moment.posts authority) =
        past.reverse.flatMap (Moment.posts authority) ++ Moment.posts authority ⟨exchange, move⟩ := by
      rw [List.reverse_cons, List.flatMap_append, List.flatMap_singleton]
    simp only [last, posts]
    refine ⟨?_, ?_⟩
    · rw [heard, List.append_assoc, queue, List.append_assoc]
      rfl
    · rcases Moment.answer_cases proper unprompted with
        ⟨none, silent, same⟩ | ⟨message, reply, asked, replied, posted, counted⟩
      · rw [none, silent, Option.toList_none, List.append_nil, List.append_nil]
        exact ⟨answers, (congrArg Primary.snapshots same).trans snapshots,
          (congrArg Primary.actions same).trans actions⟩
      · rw [asked, posted, Option.toList_some]
        refine ⟨List.rel_append answers (.cons ⟨reply, replied, rfl⟩ .nil), ?_⟩
        have first := congrArg Primary.snapshots counted
        have second := congrArg Primary.actions counted
        simp only [List.filter_append, List.length_append]
        cases replied with
        | ready | served | failed =>
          exact ⟨first.trans (by simp [Primary.credit, snapshots, Message.isReady]),
            second.trans (by simp [Primary.credit, actions, Message.isRequest])⟩

/-- A source whose snapshots are empty and whose actions fail for one portal. -/
def moody : Authority Unit Empty where
  snapshot := fun _ => .ok .empty
  act := fun portal _ source =>
    (if portal = "metis" then .error "down" else .ok (.object [("chat", .list [])]), source, [])

theorem moody_proper : moody.Proper where
  snapshot := fun _ => ⟨.empty, .empty, rfl, rfl⟩
  act := by
    intro portal _ _ value acted
    by_cases fails : portal = "metis"
    · simp [moody, fails] at acted
    · simp only [moody, if_neg fails, Except.ok.injEq] at acted
      exact ⟨by rw [← acted]; rfl, [("chat", [])], acted.symm⟩

/-- A primary joins and hears of something unknown, an announcement and two requests, and all that is queued runs. -/
def moodyRuns : List (Move Unit) :=
  [.job, .job, .job, .job, .job, .job, .job, .job,
    .post (.object [("type", .text "ACTION_REQUEST"), ("payload", .text "hi"), ("portal", .text "main")]) none,
    .post (.object [("type", .text "ACTION_REQUEST")]) none, .post (.object [("type", .text "PORTAL_READY")]) none,
    .post (.object [("type", .text "PING")]) none, .join .primary]

theorem moody_answers :
    let past := (Exchange.trace moody (.make "t" () []) moodyRuns).1
    let exchange := (Exchange.trace moody (.make "t" () []) moodyRuns).2
    (past.reverse.filterMap Moment.heard?).length = 4 ∧
      past.reverse.filterMap Moment.heard? = past.reverse.filterMap Moment.answered? ∧
      (past.reverse.flatMap (Moment.posts moody)).length = 3 ∧
      exchange.state.primary.snapshots = 1 ∧ exchange.state.primary.actions = 2 := by
  intro past exchange
  have unprompted : ∀ moment ∈ past, moment.Unprompted := by
    simp only [past, moodyRuns, Exchange.trace, List.forall_mem_cons]
    simp [Moment.Unprompted]
  have idle : exchange.loop.queue.filterMap Job.unanswered? = [] := by decide +kernel
  obtain ⟨heard, answers, snapshots, actions⟩ := primary_answers moody_proper (Run.of_trace unprompted)
  refine ⟨by decide +kernel, heard.trans ?_, answers.length_eq.symm.trans (by decide +kernel),
    snapshots.trans (by decide +kernel), actions.trans (by decide +kernel)⟩
  rw [idle, List.append_nil]

/-- A primary joins and hears an announcement, and all that is queued runs. -/
def garbledRuns : List (Move Unit) :=
  [.job, .job, .post (.object [("type", .text "PORTAL_READY")]) none, .join .primary]

/-- It is not enough that snapshots are at hand: one that cannot be sent leaves an announcement without an answer. -/
theorem garbled_stays_silent :
    let past := (Exchange.trace garbled (.make "t" () []) garbledRuns).1
    let exchange := (Exchange.trace garbled (.make "t" () []) garbledRuns).2
    (∀ source, ∃ snapshot, garbled.snapshot source = .ok snapshot) ∧
      (∀ portal payload source, ∃ histories, (garbled.act portal payload source).1 = .ok (.ofHistories histories) ∧
        (Value.ofHistories histories).isJson = true) ∧
      Run garbled Moment.Unprompted (.make "t" () []) past exchange ∧
      past.reverse.filterMap Moment.question? = [((), .ready none)] ∧
      exchange.loop.queue.filterMap Job.unanswered? = [] ∧
      past.reverse.flatMap (Moment.posts garbled) = [] ∧ exchange.state.primary.snapshots = 0 := by
  intro past exchange
  have unprompted : ∀ moment ∈ past, moment.Unprompted := by
    simp only [past, garbledRuns, Exchange.trace, List.forall_mem_cons]
    simp [Moment.Unprompted]
  exact ⟨fun _ => ⟨_, rfl⟩, fun _ _ _ => ⟨[], rfl, rfl⟩, Run.of_trace unprompted, by decide +kernel, by decide +kernel,
    by decide +kernel, by decide +kernel⟩

end Workbench
