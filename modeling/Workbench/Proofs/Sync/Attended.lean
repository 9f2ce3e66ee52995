import Workbench.Proofs.Sync.Errand

namespace Workbench

variable {σ ε : Type}

/-- What may happen while the primary is alive and nobody else speaks: the source changes, portals are
started and closed and ask for snapshots and actions, the primary sends snapshots, jobs run, and the clock is
turned once nothing is queued. -/
def Moment.Attends (moment : Moment σ) : Prop :=
  match moment.move with
  | .change _ | .broadcast _ | .job => True
  | .call _ .start | .call _ .close | .call _ .resync | .call _ (.act (.text _)) => True
  | .turn _ => moment.exchange.loop.queue = []
  | _ => False

/-- Whether the primary listens, nothing is queued, and no portal has begun. Portals have names, and the times
for which they wait are positive. -/
structure Exchange.Opens (exchange : Exchange σ) : Prop where
  listening : .primary ∈ exchange.loop.listeners
  queue : exchange.loop.queue = []
  timers : exchange.loop.timers = []
  portals : ∀ id portal, exchange.state.portals.get? id = some portal → ∃ name patience historyKeys,
    portal = Portal.make name patience historyKeys ∧ name ≠ "" ∧ 0 < patience.timeout ∧
      ∀ span, patience.action = some span → 0 < span

/-- Whether the primary hears what is asked and every update can be taken over. -/
structure Exchange.Attentive (exchange : Exchange σ) : Prop where
  listening : .primary ∈ exchange.loop.listeners
  json : ∀ listener data snapshot, exchange.loop.Pending (.delivery listener data) →
    Message.parse data = .ok (.update snapshot) → snapshot.IsJson
  unroused : ∀ id action, ¬ exchange.loop.Pending (.rouse (.expire id action))

/-- A portal that is not left alone: whatever it waits for is under way, and no time for an answer runs out
while it waits. -/
structure Attended (exchange : Exchange σ) (id : String) (portal : Portal) : Prop where
  named : portal.name ≠ ""
  patient : 0 < portal.patience.timeout
  timed : ∀ span, portal.patience.action = some span → 0 < span
  working : portal.phase ≠ .failed
  fresh : portal.phase = .initial → portal.started = false ∧ portal.deadline = none
  listens : portal.phase = .handshaking ∨ portal.phase = .synced → .portal id ∈ exchange.loop.listeners
  shakes : portal.phase = .handshaking → portal.shaking = true ∧
    (portal.deadline = none ∧ .work (.shake id) ∈ exchange.loop.queue ∨
      portal.deadline = some (exchange.loop.now + portal.patience.timeout) ∧
        UnderWay exchange.loop.queue id .sync)
  waits : portal.awaiting = true → portal.phase = .closed ∨
    portal.phase = .synced ∧ UnderWay exchange.loop.queue id (.action portal.name)
  armed : ∀ action, portal.alarm = some action → portal.phase = .synced ∧ portal.awaiting = true
  counted : ∀ action, exchange.loop.Pending (.work (.expire id action)) → action ≤ portal.actions
  outdated : ∀ action, .work (.expire id action) ∈ exchange.loop.queue → portal.alarm ≠ some action

namespace Moment.Attends

variable {moment : Moment σ}

theorem full (attends : moment.Attends) : moment.move ≠ .clear := by
  intro move
  simp only [Attends, move] at attends

theorem unjoined (attends : moment.Attends) (listener : Listener) : moment.move ≠ .join listener := by
  intro move
  simp only [Attends, move] at attends

theorem unleft (attends : moment.Attends) (listener : Listener) : moment.move ≠ .leave listener := by
  intro move
  simp only [Attends, move] at attends

theorem unposted (attends : moment.Attends) (data : Value) (sender : Option Listener) :
    moment.move ≠ .post data sender := by
  intro move
  simp only [Attends, move] at attends

theorem idle (attends : moment.Attends) {time : Rat} (move : moment.move = .turn time) :
    moment.exchange.loop.queue = [] := by
  simpa only [Attends, move] using attends

/-- Portals send no messages but their own and no payloads but texts. -/
theorem proper (attends : moment.Attends) {id : String} {call : Portal.Call} (move : moment.move = .call id call) :
    (∀ message, call ≠ .post message) ∧ ∀ payload, call = .act payload → ∃ text, payload = .text text := by
  unfold Attends at attends
  rw [move] at attends
  cases call with
  | start | close | resync => exact ⟨nofun, nofun⟩
  | post message => exact attends.elim
  | act payload =>
    refine ⟨nofun, ?_⟩
    rintro _ ⟨⟩
    cases payload with
    | text content => exact ⟨content, rfl⟩
    | _ => exact attends.elim

theorem sends (attends : moment.Attends) {id : String} {portal : Portal} {message : Message}
    (own : .send message ∈ (moment.reaction id portal).deeds) :
    message = .ready (some portal.name) ∨ message = .closing (some portal.name) ∨
      ∃ payload, message = .request payload (some portal.name) := by
  obtain ⟨stimulus, reacting, reacts⟩ := Moment.reacts_of_mem own
  rcases reacts.sends own with ready | closing | request | rfl
  · exact Or.inl ready
  · exact Or.inr (Or.inl closing)
  · exact Or.inr (Or.inr request)
  · rcases Moment.stimulus?_eq_some reacting with ⟨call, move, same⟩ | ⟨_, _, _, same⟩ | ⟨_, same⟩ | ⟨_, _, same⟩
    · cases same
      exact absurd rfl ((attends.proper move).1 message)
    all_goals cases same

end Moment.Attends

theorem Exchange.Attentive.after {authority : Authority σ ε} {moment : Moment σ}
    (attentive : moment.exchange.Attentive) (attends : moment.Attends) : (moment.after authority).Attentive where
  listening := by
    refine Moment.mem_listeners_after attentive.listening attends.full ?_
    intro member
    rcases Moment.unsubscribes member with move | ⟨id, same, _⟩
    · exact attends.unleft _ move
    · cases same
  json := by
    intro listener data snapshot pending read
    rcases Moment.pending_after pending with before | ⟨deed, origin, leads⟩
    · exact attentive.json listener data snapshot before read
    · rcases origin.delivery leads with posted | ⟨id, portal, message, found, own, dumped⟩ | ⟨sender, move⟩
      · rcases Moment.posted_eq_some posted with ⟨source, _, dumped⟩ | ⟨_, _, _, _, _, _, _, dumped⟩
        · obtain ⟨arrived, made, same⟩ := Message.parse_update dumped
          cases read.symm.trans same
          exact Snapshot.isJson_of_plain made
        · obtain ⟨arrived, _, same⟩ := Message.parse_response dumped
          cases read.symm.trans same
      · obtain ⟨arrived, made, same⟩ := Message.parse_of_dump dumped
        rcases attends.sends own with rfl | rfl | ⟨payload, rfl⟩ <;>
        · cases made
          cases read.symm.trans same
      · exact absurd move (attends.unposted data sender)
  unroused := by
    intro id action pending
    rcases Moment.pending_after pending with before | ⟨deed, origin, leads⟩
    · exact attentive.unroused id action before
    · obtain ⟨other, same⟩ := origin.rouse leads
      cases same

section

variable {authority : Authority σ ε} {moment : Moment σ} {id : String} {portal : Portal}

theorem Moment.expires_later (attentive : moment.exchange.Attentive)
    (found : moment.exchange.state.portals.get? id = some portal) {deed : Deed Listener Duty} {action : Nat}
    (origin : Origin authority moment deed) (leads : deed.LeadsTo (.work (.expire id action))) :
    ∃ span, .alarm span action ∈ (moment.reaction id portal).deeds ∧ deed = .alarm span (.expire id action) := by
  rcases origin.expire leads with running | ⟨other, span, same, own, rfl⟩
  · have queued := List.mem_of_head? (Moment.job?_eq_some.mp running).2
    exact absurd (Or.inl queued) (attentive.unroused id action)
  · cases found.symm.trans same
    exact ⟨span, own, rfl⟩

theorem Attended.counted_after (attended : Attended moment.exchange id portal)
    (attentive : moment.exchange.Attentive) (found : moment.exchange.state.portals.get? id = some portal)
    {action : Nat} (pending : (moment.after authority).loop.Pending (.work (.expire id action))) :
    action ≤ portal.actions ∨ ∃ span, .alarm span action ∈ (moment.reaction id portal).deeds := by
  rcases Moment.pending_after pending with before | ⟨deed, origin, leads⟩
  · exact Or.inl (attended.counted action before)
  · obtain ⟨span, own, _⟩ := Moment.expires_later attentive found origin leads
    exact Or.inr ⟨span, own⟩

/-- The clock does not turn while a portal waits for an answer. -/
theorem Attended.outdated_after (attended : Attended moment.exchange id portal)
    (attentive : moment.exchange.Attentive) (attends : moment.Attends)
    (found : moment.exchange.state.portals.get? id = some portal) {action : Nat}
    (queued : .work (.expire id action) ∈ (moment.after authority).loop.queue) :
    action ≤ portal.actions ∧ portal.alarm ≠ some action ∨
      ∃ span, span ≤ 0 ∧ .alarm span action ∈ (moment.reaction id portal).deeds := by
  rcases Moment.queued_after queued with before | ⟨⟨time, move⟩, awaited⟩ | ⟨deed, origin, rushes⟩
  · exact Or.inl ⟨attended.counted action (Or.inl before), attended.outdated action before⟩
  · refine Or.inl ⟨attended.counted action (Or.inr awaited), ?_⟩
    intro alarm
    obtain ⟨synced, waiting⟩ := attended.armed action alarm
    rcases attended.waits waiting with closed | ⟨_, underWay⟩
    · cases closed.symm.trans synced
    · exact underWay.queue_ne_nil (attends.idle move)
  · obtain ⟨span, own, rfl⟩ := Moment.expires_later attentive found origin (Or.inl rushes)
    exact Or.inr ⟨span, rushes.1, own⟩

theorem Attended.unarmed_after (attended : Attended moment.exchange id portal)
    (attentive : moment.exchange.Attentive) (attends : moment.Attends)
    (found : moment.exchange.state.portals.get? id = some portal)
    (unarmed : ∀ span action, .alarm span action ∉ (moment.reaction id portal).deeds) :
    (∀ action, (moment.after authority).loop.Pending (.work (.expire id action)) → action ≤ portal.actions) ∧
      ∀ action, .work (.expire id action) ∈ (moment.after authority).loop.queue → portal.alarm ≠ some action := by
  constructor
  · intro action pending
    rcases attended.counted_after attentive found pending with old | ⟨span, own⟩
    · exact old
    · exact absurd own (unarmed span action)
  · intro action queued
    rcases attended.outdated_after attentive attends found queued with ⟨_, other⟩ | ⟨span, _, own⟩
    · exact other
    · exact absurd own (unarmed span action)

theorem Attended.listens_after (attended : Attended moment.exchange id portal) (attends : moment.Attends)
    (open' : moment.move ≠ .call id .close) (takes : portal.phase = .handshaking ∨ portal.phase = .synced) :
    .portal id ∈ (moment.after authority).loop.listeners := by
  refine Moment.mem_listeners_after (attended.listens takes) attends.full ?_
  intro member
  rcases Moment.unsubscribes member with move | ⟨other, same, move⟩
  · exact attends.unleft _ move
  · cases same
    exact open' move

theorem Attended.waits_after (dependable : authority.Dependable) (attended : Attended moment.exchange id portal)
    (attentive : moment.exchange.Attentive) (attends : moment.Attends)
    (unheard : ∀ data message, moment.job? = some (.delivery (.portal id) data) →
      Message.parse data = .ok message → ¬ (Errand.action portal.name).replies message)
    (waiting : portal.awaiting = true) :
    portal.phase = .closed ∨
      portal.phase = .synced ∧ UnderWay (moment.after authority).loop.queue id (.action portal.name) := by
  rcases attended.waits waiting with closed | ⟨synced, underWay⟩
  · exact Or.inl closed
  · refine Or.inr ⟨synced, underWay.after dependable ?_ attends.full attentive.listening
      (attended.listens (Or.inr synced)) unheard⟩
    rintro _ ⟨⟩
    exact attended.named

theorem Attended.shakes_after (dependable : authority.Dependable) (attended : Attended moment.exchange id portal)
    (attentive : moment.exchange.Attentive) (attends : moment.Attends)
    (unshaken : moment.job? ≠ some (.work (.shake id)))
    (unheard : ∀ data message, moment.job? = some (.delivery (.portal id) data) →
      Message.parse data = .ok message → ¬ Errand.sync.replies message)
    (shaking : portal.phase = .handshaking) :
    portal.shaking = true ∧
      (portal.deadline = none ∧ .work (.shake id) ∈ (moment.after authority).loop.queue ∨
        portal.deadline = some ((moment.after authority).loop.now + portal.patience.timeout) ∧
          UnderWay (moment.after authority).loop.queue id .sync) := by
  obtain ⟨shakes, ⟨undated, queued⟩ | ⟨dated, underWay⟩⟩ := attended.shakes shaking
  · exact ⟨shakes, Or.inl ⟨undated, Moment.mem_queue_after queued unshaken⟩⟩
  · have still : ∀ time, moment.move ≠ .turn time := fun time move => underWay.queue_ne_nil (attends.idle move)
    rw [Moment.now_after authority still]
    exact ⟨shakes, Or.inr ⟨dated, underWay.after dependable nofun attends.full attentive.listening
      (attended.listens (Or.inl shaking)) unheard⟩⟩

/-- A portal that neither changes nor hears what it waits for is attended as before. -/
theorem Attended.kept (dependable : authority.Dependable) (attended : Attended moment.exchange id portal)
    (attentive : moment.exchange.Attentive) (attends : moment.Attends)
    (found : moment.exchange.state.portals.get? id = some portal) (open' : moment.move ≠ .call id .close)
    (unarmed : ∀ span action, .alarm span action ∉ (moment.reaction id portal).deeds)
    (unshaken : portal.phase = .handshaking → moment.job? ≠ some (.work (.shake id)))
    (unheard : ∀ data message, moment.job? = some (.delivery (.portal id) data) → Message.parse data = .ok message →
      (portal.phase = .handshaking → ¬ Errand.sync.replies message) ∧
        (portal.awaiting = true → portal.phase = .synced → ¬ (Errand.action portal.name).replies message)) :
    Attended (moment.after authority) id portal :=
  { attended with
    listens := attended.listens_after attends open'
    shakes := fun shaking => attended.shakes_after dependable attentive attends (unshaken shaking)
      (fun data message running read => (unheard data message running read).1 shaking) shaking
    waits := by
      intro waiting
      rcases attended.waits waiting with closed | ⟨synced, _⟩
      · exact Or.inl closed
      · exact attended.waits_after dependable attentive attends
          (fun data message running read => (unheard data message running read).2 waiting synced) waiting
    counted := (attended.unarmed_after attentive attends found unarmed).1
    outdated := (attended.unarmed_after attentive attends found unarmed).2 }

/-- What a portal sends is on its way to the primary. -/
theorem Moment.Attends.delivery (attends : moment.Attends) (attentive : moment.exchange.Attentive)
    (found : moment.exchange.state.portals.get? id = some portal)
    (uncalled : ∀ id, moment.move ≠ .call id .start ∧ moment.move ≠ .call id .close) {message : Message}
    (own : .send message ∈ (moment.reaction id portal).deeds) {data : Value} (dumped : message.dump = .ok data) :
    .delivery .primary data ∈ (moment.after authority).loop.queue := by
  have posted : .post data (some (.portal id)) ∈ moment.deeds authority := by
    refine Moment.mem_deeds_of_reaction found own ?_
    simp only [PortalDeed.toLoop, dumped, List.mem_singleton]
  exact Moment.delivery_after attentive.listening attends.full
    (Moment.stay attends.unjoined attends.unleft uncalled) posted (by simp)

theorem Moment.Attends.requested (attends : moment.Attends) (attentive : moment.exchange.Attentive)
    (found : moment.exchange.state.portals.get? id = some portal) {payload : Value}
    (move : moment.move = .call id (.act payload)) {text : String}
    (own : .send (.request text (some portal.name)) ∈ (moment.reaction id portal).deeds) :
    UnderWay (moment.after authority).loop.queue id (.action portal.name) := by
  have uncalled : ∀ id, moment.move ≠ .call id .start ∧ moment.move ≠ .call id .close := by
    rw [move]
    simp
  have delivered : .delivery .primary (Message.request text (some portal.name)).toValue ∈
      (moment.after authority).loop.queue :=
    attends.delivery attentive found uncalled own (Message.dump_eq_ok.mpr ⟨_, rfl, rfl⟩)
  exact ⟨_, .request text (some portal.name), Message.parse_toValue _, Or.inl ⟨rfl, Or.inl delivered⟩⟩

theorem Moment.Attends.announced (attends : moment.Attends) (attentive : moment.exchange.Attentive)
    (found : moment.exchange.state.portals.get? id = some portal) (move : moment.move = .job)
    (own : .send (.ready (some portal.name)) ∈ (moment.reaction id portal).deeds) :
    UnderWay (moment.after authority).loop.queue id .sync := by
  have uncalled : ∀ id, moment.move ≠ .call id .start ∧ moment.move ≠ .call id .close := by
    rw [move]
    simp
  have delivered : .delivery .primary (Message.ready (some portal.name)).toValue ∈
      (moment.after authority).loop.queue :=
    attends.delivery attentive found uncalled own (Message.dump_eq_ok.mpr ⟨_, rfl, rfl⟩)
  exact ⟨_, .ready (some portal.name), Message.parse_toValue _, Or.inl ⟨trivial, Or.inl delivered⟩⟩

/-- A portal waits for no answer while it shakes hands. -/
theorem Attended.idle {exchange : Exchange σ} (attended : Attended exchange id portal)
    (shaking : portal.phase = .handshaking) : portal.awaiting = false := by
  by_contra waiting
  rcases attended.waits (Bool.eq_true_of_not_eq_false waiting) with closed | ⟨synced, _⟩
  · cases closed.symm.trans shaking
  · cases synced.symm.trans shaking

/-- A copy that changes and a snapshot that is asked for make no difference. -/
theorem Attended.redrawn {exchange : Exchange σ} (attended : Attended exchange id portal) (resync : Bool)
    (snapshot : Option Snapshot) : Attended exchange id { portal with resync := resync, snapshot := snapshot } :=
  { attended with }

/-- A portal that hears nothing that it waits for is attended as before. -/
theorem Attended.kept_hear (dependable : authority.Dependable) (attended : Attended moment.exchange id portal)
    (attentive : moment.exchange.Attentive) (attends : moment.Attends)
    (found : moment.exchange.state.portals.get? id = some portal) {data : Value}
    (running : moment.job? = some (.delivery (.portal id) data))
    (unarmed : ∀ span action, .alarm span action ∉ (moment.reaction id portal).deeds)
    (unheard : ∀ message, Message.parse data = .ok message →
      (portal.phase = .handshaking → ¬ Errand.sync.replies message) ∧
        (portal.awaiting = true → portal.phase = .synced → ¬ (Errand.action portal.name).replies message)) :
    Attended (moment.after authority) id portal := by
  refine attended.kept dependable attentive attends found ?_ unarmed ?_ ?_
  · rw [(Moment.job?_eq_some.mp running).1]
    simp
  · intro _
    rw [running]
    simp
  · intro other message delivered read
    rw [running] at delivered
    cases delivered
    exact unheard message read

/-- A portal that takes over a snapshot is in step, and still waits for the answer to its request. -/
theorem Attended.after_adoption (dependable : authority.Dependable) (attended : Attended moment.exchange id portal)
    (attentive : moment.exchange.Attentive) (attends : moment.Attends)
    (found : moment.exchange.state.portals.get? id = some portal) {data : Value}
    (running : moment.job? = some (.delivery (.portal id) data))
    (unarmed : ∀ span action, .alarm span action ∉ (moment.reaction id portal).deeds) (wants : portal.wants = true)
    {update : Snapshot} (read : Message.parse data = .ok (.update update)) (snapshot : Option Snapshot) :
    Attended (moment.after authority) id { portal with
      shaking := false, resync := false, snapshot := snapshot, phase := .synced, settled := true } := by
  have open' : moment.move ≠ .call id .close := by
    rw [(Moment.job?_eq_some.mp running).1]
    simp
  have takes : portal.phase = .handshaking ∨ portal.phase = .synced := by
    simp only [Portal.wants, Bool.or_eq_true, Bool.and_eq_true, decide_eq_true_eq] at wants
    exact wants.imp_right And.left
  have unanswered : ∀ other message, moment.job? = some (.delivery (.portal id) other) →
      Message.parse other = .ok message → ¬ (Errand.action portal.name).replies message := by
    intro other message delivered again
    rw [running] at delivered
    cases delivered
    rw [read] at again
    cases again
    exact not_false
  exact { attended with
    working := by rintro ⟨⟩
    fresh := by rintro ⟨⟩
    listens := fun _ => attended.listens_after attends open' takes
    shakes := by rintro ⟨⟩
    waits := by
      intro waiting
      rcases attended.waits_after dependable attentive attends unanswered waiting with closed | ⟨_, underWay⟩
      · simp [closed] at takes
      · exact Or.inr ⟨rfl, underWay⟩
    armed := fun action alarm => ⟨rfl, (attended.armed action alarm).2⟩
    counted := (attended.unarmed_after attentive attends found unarmed).1
    outdated := (attended.unarmed_after attentive attends found unarmed).2 }

/-- A portal that hears the answer to its request waits no more. -/
theorem Attended.after_service (attended : Attended moment.exchange id portal) (attentive : moment.exchange.Attentive)
    (attends : moment.Attends) (found : moment.exchange.state.portals.get? id = some portal)
    (open' : moment.move ≠ .call id .close)
    (unarmed : ∀ span action, .alarm span action ∉ (moment.reaction id portal).deeds)
    (synced : portal.phase = .synced) (snapshot : Option Snapshot) :
    Attended (moment.after authority) id { portal with
      snapshot := snapshot, awaiting := false, alarm := none, answered := true } :=
  { attended with
    listens := fun _ => attended.listens_after attends open' (Or.inr synced)
    shakes := fun shaking => by cases synced.symm.trans shaking
    waits := by rintro ⟨⟩
    armed := by rintro _ ⟨⟩
    counted := (attended.unarmed_after attentive attends found unarmed).1
    outdated := by rintro _ _ ⟨⟩ }

/-- Hearing leaves a portal attended: the answer that it waits for lets it go on, anything else leaves what it
waits for under way. -/
theorem Attended.after_hear (dependable : authority.Dependable) (attended : Attended moment.exchange id portal)
    (attentive : moment.exchange.Attentive) (attends : moment.Attends)
    (found : moment.exchange.state.portals.get? id = some portal) {data : Value} {outcome : PortalOutcome}
    (same : moment.reaction id portal = outcome) (running : moment.job? = some (.delivery (.portal id) data))
    (reacts : Portal.Reacts portal (.hear data) outcome) : Attended (moment.after authority) id outcome.portal := by
  have unarmed (span : Rat) (action : Nat) : .alarm span action ∉ (moment.reaction id portal).deeds := by
    rw [same]
    exact reacts.unalarmed span action
  have kept := attended.kept_hear dependable attentive attends found running unarmed
  cases reacts with
  | deaf _ gone =>
    exact kept fun _ _ => ⟨fun shaking => by simp [shaking] at gone, fun _ synced => by simp [synced] at gone⟩
  | dropped _ fault _ _ unread =>
    refine kept fun message read => ?_
    rw [unread] at read
    cases read
  | passed _ message _ _ read passes =>
    refine kept fun again reread => ?_
    rw [read] at reread
    cases reread
    constructor
    · intro shaking
      cases message with
      | update snapshot => simp [Portal.passes, Portal.wants, shaking] at passes
      | _ => exact not_false
    · intro _ synced
      cases message with
      | response histories addressee => simp [Portal.passes, synced] at passes
      | _ => exact not_false
  | adopted _ update snapshot wants read made =>
    exact attended.after_adoption dependable attentive attends found running unarmed wants read (some snapshot)
  | unreadable _ update fault wants read failed =>
    have queued := List.mem_of_head? (Moment.job?_eq_some.mp running).2
    have json := (attentive.json _ _ _ (Or.inl queued) read).plain
    rw [json] at failed
    cases failed
  | received _ histories addressee synced read unserved =>
    refine (kept fun message again => ?_).redrawn portal.resync (portal.merged histories)
    rw [read] at again
    cases again
    refine ⟨fun _ => not_false, fun waiting _ addressed => ?_⟩
    cases addressed
    simp [Portal.isServed, waiting] at unserved
  | served _ histories addressee synced read served =>
    have open' : moment.move ≠ .call id .close := by
      rw [(Moment.job?_eq_some.mp running).1]
      simp
    exact attended.after_service attentive attends found open' unarmed synced (portal.merged histories)

/-- An announcement goes out in time: the clock has not moved since the first one. -/
theorem Attended.after_shake (dependable : authority.Dependable) (attended : Attended moment.exchange id portal)
    (attentive : moment.exchange.Attentive) (attends : moment.Attends)
    (found : moment.exchange.state.portals.get? id = some portal) {outcome : PortalOutcome}
    (same : moment.reaction id portal = outcome) (running : moment.job? = some (.work (.shake id)))
    (reacts : Portal.Reacts portal (.shake moment.exchange.loop.now) outcome) :
    Attended (moment.after authority) id outcome.portal := by
  have move := (Moment.job?_eq_some.mp running).1
  have open' : moment.move ≠ .call id .close := by
    rw [move]
    simp
  have due (shaking : portal.phase = .handshaking) :
      portal.deadline.getD (moment.exchange.loop.now + portal.patience.timeout) =
        moment.exchange.loop.now + portal.patience.timeout := by
    obtain ⟨_, ⟨undated, _⟩ | ⟨dated, _⟩⟩ := attended.shakes shaking
    · rw [undated, Option.getD_none]
    · rw [dated, Option.getD_some]
  cases reacts with
  | rested _ still =>
    suffices kept : Attended (moment.after authority) id portal from kept
    have resting : portal.phase ≠ .handshaking := by
      intro shaking
      rcases still with still | still
      · exact Bool.false_ne_true (still.symm.trans (attended.shakes shaking).1)
      · exact still shaking
    refine attended.kept dependable attentive attends found open' (by rw [same]; simp [Portal.does])
      (fun shaking => absurd shaking resting) ?_
    intro _ _ delivered
    rw [running] at delivered
    cases delivered
  | gaveUp _ _ shaking late =>
    have patient := attended.patient
    rw [due shaking] at late
    grind
  | announced _ deadline shaking handshaking dated _ =>
    have underWay : UnderWay (moment.after authority).loop.queue id .sync :=
      attends.announced attentive found move (by rw [same]; exact List.mem_cons_self)
    have unarmed (span : Rat) (action : Nat) : .alarm span action ∉ (moment.reaction id portal).deeds := by
      rw [same]
      simp [Portal.does, Portal.ready]
    exact { attended with
      fresh := fun fresh => by cases fresh.symm.trans handshaking
      listens := attended.listens_after attends open'
      shakes := by
        intro _
        refine ⟨shaking, Or.inr ⟨?_, underWay⟩⟩
        rw [Moment.now_after authority (by rw [move]; simp), ← dated, due handshaking]
        rfl
      waits := fun waiting => absurd ((attended.idle handshaking).symm.trans waiting) Bool.false_ne_true
      counted := (attended.unarmed_after attentive attends found unarmed).1
      outdated := (attended.unarmed_after attentive attends found unarmed).2 }

/-- No time for an answer runs out: an alarm that goes off is that of an earlier request. -/
theorem Attended.after_expire (dependable : authority.Dependable) (attended : Attended moment.exchange id portal)
    (attentive : moment.exchange.Attentive) (attends : moment.Attends)
    (found : moment.exchange.state.portals.get? id = some portal) {action : Nat} {outcome : PortalOutcome}
    (same : moment.reaction id portal = outcome) (running : moment.job? = some (.work (.expire id action)))
    (reacts : Portal.Reacts portal (.expire action) outcome) : Attended (moment.after authority) id outcome.portal := by
  have other := attended.outdated action (List.mem_of_head? (Moment.job?_eq_some.mp running).2)
  cases reacts with
  | outdated =>
    suffices kept : Attended (moment.after authority) id portal from kept
    refine attended.kept dependable attentive attends found ?_ (by rw [same]; simp [Portal.does]) ?_ ?_
    · rw [(Moment.job?_eq_some.mp running).1]
      simp
    · rw [running]
      simp
    · rw [running]
      simp
  | needless _ alarm _ => exact absurd alarm other
  | expired _ alarm _ => exact absurd alarm other

/-- A call that sets no alarm leaves a portal attended as it was, unless it closes the portal. -/
theorem Attended.kept_call (dependable : authority.Dependable) (attended : Attended moment.exchange id portal)
    (attentive : moment.exchange.Attentive) (attends : moment.Attends)
    (found : moment.exchange.state.portals.get? id = some portal) {call : Portal.Call}
    (move : moment.move = .call id call) (open' : call ≠ .close)
    (unarmed : ∀ span action, .alarm span action ∉ (moment.reaction id portal).deeds) :
    Attended (moment.after authority) id portal := by
  have nothing : moment.job? = none := by simp only [Moment.job?, move]
  refine attended.kept dependable attentive attends found ?_ unarmed ?_ ?_
  · rw [move]
    rintro ⟨⟩
    exact open' rfl
  · rw [nothing]
    simp
  · rw [nothing]
    simp

/-- A portal that is started listens to the channel and is about to announce itself. -/
theorem Attended.after_start (dependable : authority.Dependable) (attended : Attended moment.exchange id portal)
    (attentive : moment.exchange.Attentive) (attends : moment.Attends)
    (found : moment.exchange.state.portals.get? id = some portal) {outcome : PortalOutcome}
    (same : moment.reaction id portal = outcome) (move : moment.move = .call id .start)
    (reacts : Portal.Reacts portal (.call .start) outcome) :
    Attended (moment.after authority) id outcome.portal := by
  have unarmed (span : Rat) (action : Nat) : .alarm span action ∉ (moment.reaction id portal).deeds := by
    rw [same]
    cases reacts <;> simp [Portal.does, Portal.refuses]
  cases reacts with
  | alreadyStarted _ => exact attended.kept_call dependable attentive attends found move (by simp) unarmed
  | started fresh =>
    have joins : PortalDeed.join ∈ (moment.reaction id portal).deeds := by
      rw [same]
      exact List.mem_cons_self
    have begins : PortalDeed.shake ∈ (moment.reaction id portal).deeds := by
      rw [same]
      exact List.mem_cons_of_mem _ List.mem_cons_self
    have subscribes : .subscribe (.portal id) ∈ moment.deeds authority :=
      Moment.mem_deeds_of_reaction found joins (List.mem_singleton_self _)
    have proceeds : .proceed (.shake id) ∈ moment.deeds authority :=
      Moment.mem_deeds_of_reaction found begins (List.mem_singleton_self _)
    exact { attended with
      working := by rintro ⟨⟩
      fresh := by rintro ⟨⟩
      listens := by
        intro _
        rw [Moment.loop_after]
        refine Loop.mem_listeners_of_subscribe subscribes ?_
        intro member
        rcases Moment.unsubscribes member with left | ⟨_, _, left⟩ <;>
        · rw [move] at left
          cases left
      shakes := fun _ => ⟨rfl, Or.inl ⟨(attended.fresh fresh).2, Moment.work_after _ proceeds (Or.inr rfl)⟩⟩
      waits := by
        intro waiting
        rcases attended.waits waiting with closed | ⟨synced, _⟩
        · cases fresh.symm.trans closed
        · cases fresh.symm.trans synced
      armed := fun action alarm => by cases fresh.symm.trans (attended.armed action alarm).1
      counted := (attended.unarmed_after attentive attends found unarmed).1
      outdated := (attended.unarmed_after attentive attends found unarmed).2 }

/-- Nothing is asked of a portal that is closed. -/
theorem Attended.after_close (attended : Attended moment.exchange id portal)
    (attentive : moment.exchange.Attentive) (attends : moment.Attends)
    (found : moment.exchange.state.portals.get? id = some portal) {outcome : PortalOutcome}
    (same : moment.reaction id portal = outcome)
    (reacts : Portal.Reacts portal (.call .close) outcome) :
    Attended (moment.after authority) id outcome.portal := by
  have unarmed (span : Rat) (action : Nat) : .alarm span action ∉ (moment.reaction id portal).deeds := by
    rw [same]
    cases reacts <;> simp [Portal.does, Portal.farewell]
  cases reacts with
  | closedAgain gone =>
    exact { attended with
      listens := fun takes => by simp [Portal.does, gone] at takes
      shakes := fun shaking => by cases gone.symm.trans shaking
      waits := fun _ => Or.inl gone
      counted := (attended.unarmed_after attentive attends found unarmed).1
      outdated := (attended.unarmed_after attentive attends found unarmed).2 }
  | closed _ =>
    exact { attended with
      working := by rintro ⟨⟩
      fresh := by rintro ⟨⟩
      listens := by rintro (⟨⟨⟩⟩ | ⟨⟨⟩⟩)
      shakes := by rintro ⟨⟩
      waits := fun _ => Or.inl rfl
      armed := by rintro _ ⟨⟩
      counted := (attended.unarmed_after attentive attends found unarmed).1
      outdated := by rintro _ _ ⟨⟩ }

/-- A portal that asks for a snapshot is attended as before. -/
theorem Attended.after_resync (dependable : authority.Dependable) (attended : Attended moment.exchange id portal)
    (attentive : moment.exchange.Attentive) (attends : moment.Attends)
    (found : moment.exchange.state.portals.get? id = some portal) {outcome : PortalOutcome}
    (same : moment.reaction id portal = outcome) (move : moment.move = .call id .resync)
    (reacts : Portal.Reacts portal (.call .resync) outcome) :
    Attended (moment.after authority) id outcome.portal := by
  have unarmed (span : Rat) (action : Nat) : .alarm span action ∉ (moment.reaction id portal).deeds := by
    rw [same]
    cases reacts <;> simp [Portal.does, Portal.refuses, Portal.ready]
  have asked := attended.kept_call dependable attentive attends found move (by simp) unarmed
  cases reacts with
  | cannotResync _ => exact asked
  | resynced _ => exact asked.redrawn true portal.snapshot

/-- What a portal asks the primary to do is on its way to it. -/
theorem Attended.after_act (dependable : authority.Dependable) (attended : Attended moment.exchange id portal)
    (attentive : moment.exchange.Attentive) (attends : moment.Attends)
    (found : moment.exchange.state.portals.get? id = some portal) {payload : Value} {outcome : PortalOutcome}
    (same : moment.reaction id portal = outcome) (move : moment.move = .call id (.act payload))
    (reacts : Portal.Reacts portal (.call (.act payload)) outcome) :
    Attended (moment.after authority) id outcome.portal := by
  have underWay {text : String} (own : .send (.request text (some portal.name)) ∈ outcome.deeds) :
      UnderWay (moment.after authority).loop.queue id (.action portal.name) :=
    attends.requested attentive found move (by rw [same]; exact own)
  cases reacts with
  | cannotAct _ _ | alreadyAwaiting _ _ _ =>
    suffices kept : Attended (moment.after authority) id portal from kept
    exact attended.kept_call dependable attentive attends found move (by simp) (by rw [same]; simp [Portal.refuses])
  | badPayload _ _ _ _ _ refused =>
    obtain ⟨text, rfl⟩ := (attends.proper move).2 payload rfl
    cases refused
  | asked _ text synced idle _ _ =>
    have unarmed (span : Rat) (action : Nat) : .alarm span action ∉ (moment.reaction id portal).deeds := by
      rw [same]
      simp [Portal.does]
    exact { attended with
      listens := attended.listens_after attends (by rw [move]; simp)
      shakes := fun shaking => by cases synced.symm.trans shaking
      waits := fun _ => Or.inr ⟨synced, underWay (List.mem_cons_of_mem _ List.mem_cons_self)⟩
      armed := fun action alarm => absurd (idle.symm.trans (attended.armed action alarm).2) Bool.false_ne_true
      counted := fun action pending =>
        Nat.le_succ_of_le ((attended.unarmed_after attentive attends found unarmed).1 action pending)
      outdated := (attended.unarmed_after attentive attends found unarmed).2 }
  | askedFor _ text span synced idle given _ =>
    have alarms {other : Rat} {action : Nat} (own : .alarm other action ∈ (moment.reaction id portal).deeds) :
        other = span ∧ action = portal.actions + 1 := by
      rw [same] at own
      simpa [Portal.does] using own
    exact { attended with
      listens := attended.listens_after attends (by rw [move]; simp)
      shakes := fun shaking => by cases synced.symm.trans shaking
      waits := fun _ => Or.inr ⟨synced, underWay (List.mem_cons_of_mem _ List.mem_cons_self)⟩
      armed := fun _ _ => ⟨synced, rfl⟩
      counted := by
        intro action pending
        rcases attended.counted_after attentive found pending with old | ⟨_, own⟩
        · exact Nat.le_succ_of_le old
        · exact Nat.le_of_eq (alarms own).2
      outdated := by
        intro action queued alarm
        have armed : portal.actions + 1 = action := Option.some.inj alarm
        rcases attended.outdated_after attentive attends found queued with ⟨old, _⟩ | ⟨other, late, own⟩
        · omega
        · rw [(alarms own).1] at late
          exact Rat.not_lt.mpr late (attended.timed span given) }

/-- What a portal is told to do leaves it attended. -/
theorem Attended.after_call (dependable : authority.Dependable) (attended : Attended moment.exchange id portal)
    (attentive : moment.exchange.Attentive) (attends : moment.Attends)
    (found : moment.exchange.state.portals.get? id = some portal) {call : Portal.Call} {outcome : PortalOutcome}
    (same : moment.reaction id portal = outcome) (move : moment.move = .call id call)
    (reacts : Portal.Reacts portal (.call call) outcome) :
    Attended (moment.after authority) id outcome.portal := by
  cases call with
  | start => exact attended.after_start dependable attentive attends found same move reacts
  | close => exact attended.after_close attentive attends found same reacts
  | resync => exact attended.after_resync dependable attentive attends found same move reacts
  | act payload => exact attended.after_act dependable attentive attends found same move reacts
  | post message => exact absurd rfl ((attends.proper move).1 message)

theorem Attended.after (dependable : authority.Dependable) (attended : Attended moment.exchange id portal)
    (attentive : moment.exchange.Attentive) (attends : moment.Attends)
    (found : moment.exchange.state.portals.get? id = some portal) :
    Attended (moment.after authority) id (moment.reaction id portal).portal := by
  rcases moment.reaction_cases id portal with ⟨nothing, still⟩ | ⟨stimulus, reacting, reacts⟩
  · rw [still]
    suffices kept : Attended (moment.after authority) id portal from kept
    refine attended.kept dependable attentive attends found ?_ (by rw [still]; simp [Portal.does]) ?_ ?_
    · intro move
      exact nothing (.call .close) (by simp only [Moment.stimulus?, move])
    · intro _ running
      exact nothing _ (Moment.stimulus?_of_shake running)
    · intro data message running _
      have unheard : ¬ (portal.phase = .handshaking ∨ portal.phase = .synced) :=
        fun takes => nothing _ (Moment.stimulus?_of_delivery running (attended.listens takes))
      exact ⟨fun shaking => absurd (Or.inl shaking) unheard, fun _ synced => absurd (Or.inr synced) unheard⟩
  · generalize same : moment.reaction id portal = outcome at reacts ⊢
    rcases Moment.stimulus?_eq_some reacting with ⟨call, move, rfl⟩ | ⟨data, running, _, rfl⟩ |
      ⟨running, rfl⟩ | ⟨action, running, rfl⟩
    · exact attended.after_call dependable attentive attends found same move reacts
    · exact attended.after_hear dependable attentive attends found same running reacts
    · exact attended.after_shake dependable attentive attends found same running reacts
    · exact attended.after_expire dependable attentive attends found same running reacts

end

end Workbench
