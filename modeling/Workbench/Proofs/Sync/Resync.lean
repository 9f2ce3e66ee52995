import Workbench.Proofs.Sync.LifeCycle
import Workbench.Proofs.Sync.Workshop

namespace Workbench

variable {σ ε τ : Type}

/-- Whether data is an envelope with a snapshot. -/
def Message.isUpdate (data : Value) : Bool :=
  match parse data with
  | .ok (.update _) => true
  | _ => false

theorem Message.isUpdate_iff {data : Value} : isUpdate data = true ↔ ∃ update, parse data = .ok (.update update) := by
  unfold isUpdate
  cases parse data with
  | error fault => simp
  | ok message => cases message <;> simp

/-- The update that a job brings to a portal. -/
def Job.update? (id : String) : Job Listener Duty → Option Value
  | .delivery (.portal other) data => if other = id ∧ Message.isUpdate data = true then some data else none
  | _ => none

theorem Job.update?_eq_some {id : String} {job : Job Listener Duty} {data : Value} :
    job.update? id = some data ↔ job = .delivery (.portal id) data ∧ Message.isUpdate data = true := by
  unfold update?
  constructor
  · intro brings
    split at brings
    · split at brings
      · rename_i proper
        cases brings
        exact ⟨by rw [proper.1], proper.2⟩
      · cases brings
    · cases brings
  · rintro ⟨rfl, update⟩
    simp [update]

/-- The updates that are queued for a portal, the next one first. -/
def Exchange.underWay (exchange : Exchange σ) (id : String) : List Value :=
  exchange.loop.queue.filterMap (Job.update? id)

/-- Whether a portal that is in step waits for a snapshot that it has asked for. -/
def Portal.Expects (portal : Portal) : Prop :=
  portal.phase = .synced ∧ portal.resync = true

namespace Portal

theorem Expects.wants {portal : Portal} (expects : portal.Expects) : portal.wants = true := by
  simp [Portal.wants, expects.1, expects.2]

/-- Only a snapshot, or the end of the portal, ends the wait for a snapshot. -/
theorem Reacts.expects {portal : Portal} {stimulus : Stimulus} {outcome : PortalOutcome}
    (reacts : Reacts portal stimulus outcome) (expects : portal.Expects) :
    outcome.portal.phase = .closed ∨ outcome.portal.Expects ∨
      ∃ data, stimulus = .hear data ∧ Message.isUpdate data = true := by
  cases reacts with
  | adopted data update _ _ read | unreadable data update _ _ read =>
    exact Or.inr (Or.inr ⟨data, rfl, Message.isUpdate_iff.mpr ⟨update, read⟩⟩)
  | closed => exact Or.inl rfl
  | resynced => exact Or.inr (Or.inl ⟨expects.1, rfl⟩)
  | started phase | gaveUp _ _ phase => cases expects.1.symm.trans phase
  | _ => exact Or.inr (Or.inl expects)

end Portal

namespace Moment

/-- The data of the snapshot that a portal takes over, if it does. -/
def adopted? (moment : Moment σ) (id : String) : Option Value :=
  match moment.stimulus? with
  | some (other, .hear data) =>
    if other = id ∧ (moment.exchange.state.portals.get? id).map Portal.wants = some true ∧
      Message.isUpdate data = true then some data else none
  | _ => none

theorem adopts_iff {moment : Moment σ} {id : String} {data : Value} :
    moment.Adopts id data ↔ moment.adopted? id = some data := by
  unfold adopted?
  constructor
  · rintro ⟨portal, update, found, heard, wants, read⟩
    have isUpdate := Message.isUpdate_iff.mpr ⟨update, read⟩
    simp [heard, found, wants, isUpdate]
  · intro adopted
    split at adopted
    · rename_i other heard reacting
      split at adopted
      · rename_i proper
        obtain ⟨rfl, wanted, isUpdate⟩ := proper
        cases adopted
        obtain ⟨portal, found, wants⟩ := Option.map_eq_some_iff.mp wanted
        obtain ⟨update, read⟩ := Message.isUpdate_iff.mp isUpdate
        exact ⟨portal, update, found, reacting, wants, read⟩
      · cases adopted
    · cases adopted

/-- An update that a portal takes over was the next one on its way to it. -/
theorem Adopts.underWay {moment : Moment σ} {id : String} {data : Value} (adopts : moment.Adopts id data) :
    ∃ rest, moment.exchange.underWay id = data :: rest := by
  obtain ⟨_, update, _, heard, _, read⟩ := adopts
  rcases stimulus?_eq_some heard with ⟨_, _, same⟩ | ⟨_, running, _, same⟩ | ⟨_, same⟩ | ⟨_, _, same⟩
  · cases same
  · cases same
    obtain ⟨rest, queue⟩ := List.head?_eq_some_iff.mp (job?_eq_some.mp running).2
    have brings : Job.update? id (.delivery (.portal id) data) = some data :=
      Job.update?_eq_some.mpr ⟨rfl, Message.isUpdate_iff.mpr ⟨update, read⟩⟩
    exact ⟨rest.filterMap (Job.update? id), by rw [Exchange.underWay, queue, List.filterMap_cons_some brings]⟩
  · cases same
  · cases same

/-- What is on its way to a portal moves up when one arrives, and what the primary posts comes last. -/
theorem underWay_after (authority : Authority σ ε) {moment : Moment σ} (unspoken : moment.Unspoken)
    (prompt : moment.exchange.loop.Prompt) (id : String) :
    ∃ rest new, moment.exchange.underWay id = (moment.job?.bind (Job.update? id)).toList ++ rest ∧
      (moment.after authority).underWay id = rest ++ new ∧ ∀ data ∈ new, moment.posted? authority = some data := by
  obtain ⟨jobs, queue, own⟩ := moment.queue_after authority
  refine ⟨moment.ground.queue.filterMap (Job.update? id), jobs.filterMap (Job.update? id), ?_, ?_, ?_⟩
  · refine moment.filterMap_ground (Job.update? id) ?_
    intro job awaited
    rw [Option.eq_none_iff_forall_ne_some]
    intro data brings
    obtain ⟨rfl, _⟩ := Job.update?_eq_some.mp brings
    exact prompt _ _ awaited
  · rw [Exchange.underWay, queue, List.filterMap_append]
  · intro data member
    obtain ⟨job, queued, brings⟩ := List.mem_filterMap.mp member
    obtain ⟨rfl, update⟩ := Job.update?_eq_some.mp brings
    obtain ⟨deed, origin, rushes⟩ := own _ queued
    obtain ⟨snapshot, read⟩ := Message.isUpdate_iff.mp update
    exact posted_of_origin unspoken origin (Or.inl rushes) read rfl

/-- A portal that listens and waits for a snapshot goes on to wait, or ends, unless it takes over the one that
arrives. -/
theorem expects_after (moment : Moment σ) {id : String} {portal : Portal}
    (found : moment.exchange.state.portals.get? id = some portal) (expects : portal.Expects)
    (listens : .portal id ∈ moment.exchange.loop.listeners) (unadopted : ∀ data, ¬ moment.Adopts id data) :
    moment.job?.bind (Job.update? id) = none ∧
      ((moment.reaction id portal).portal.phase = .closed ∨ (moment.reaction id portal).portal.Expects) := by
  have unheard : ∀ data, moment.stimulus? = some (id, .hear data) → Message.isUpdate data ≠ true := by
    intro data heard update
    obtain ⟨snapshot, read⟩ := Message.isUpdate_iff.mp update
    exact unadopted data ⟨portal, snapshot, found, heard, expects.wants, read⟩
  constructor
  · rw [Option.eq_none_iff_forall_ne_some]
    intro data brings
    obtain ⟨job, running, brings⟩ := Option.bind_eq_some_iff.mp brings
    obtain ⟨rfl, update⟩ := Job.update?_eq_some.mp brings
    exact unheard data (stimulus?_of_delivery running listens) update
  · rcases moment.reaction_cases id portal with ⟨_, same⟩ | ⟨stimulus, reacting, reacts⟩
    · rw [same]
      exact Or.inr expects
    · rcases reacts.expects expects with closed | waits | ⟨data, rfl, update⟩
      · exact Or.inl closed
      · exact Or.inr waits
      · exact absurd update (unheard data reacting)

end Moment

/-- The update that a worker has and that the primary has yet to post. -/
def Worker.update? : Worker ε τ → Option Value
  | .done (.snapshot taken) => (Yield.snapshot taken).answer.toOption
  | .done (.action ..) | .busy _ => none

theorem Worker.update?_eq_some {worker : Worker ε τ} {data : Value} (has : worker.update? = some data) :
    ∃ yield, worker = .done yield ∧ yield.answer = .ok data := by
  cases worker with
  | busy stage => cases has
  | done yield =>
    cases yield with
    | action portal histories => cases has
    | snapshot taken =>
      refine ⟨_, rfl, ?_⟩
      simp only [update?] at has
      cases made : (Yield.snapshot taken).answer with
      | ok sent =>
        rw [made] at has
        exact congrArg Except.ok (Option.some.inj has)
      | error fault =>
        rw [made] at has
        cases has

/-- Who has an update has a snapshot. -/
theorem Worker.update?_of_answer {yield : Yield ε} {data : Value} (made : yield.answer = .ok data)
    (update : Message.isUpdate data = true) : (Worker.done yield : Worker ε τ).update? = some data := by
  obtain ⟨snapshot, read⟩ := Message.isUpdate_iff.mp update
  rcases Yield.answer_eq_ok made with ⟨taken, rfl, _⟩ | ⟨_, _, _, rfl, _, dumped⟩
  · simp only [update?, made, Except.toOption]
  · obtain ⟨_, _, same⟩ := Message.parse_response dumped
    cases read.symm.trans same

/-- The update that reaches a portal. -/
def Instant.brought? (instant : Instant σ ε τ) (id : String) : Option Value :=
  match instant.step with
  | .move move => (Moment.job? ⟨instant.workshop.exchange, move⟩).bind (Job.update? id)
  | .work _ | .post _ => none

/-- The data of the snapshot that a portal takes over, if it does. -/
def Instant.adopted? (instant : Instant σ ε τ) (id : String) : Option Value :=
  match instant.step with
  | .move move => Moment.adopted? ⟨instant.workshop.exchange, move⟩ id
  | .work _ | .post _ => none

theorem Instant.adopts_iff {instant : Instant σ ε τ} {id : String} {data : Value} :
    instant.Adopts id data ↔ instant.adopted? id = some data := by
  unfold Adopts adopted?
  cases instant.step with
  | move move =>
    constructor
    · rintro ⟨_, ⟨⟩, adopts⟩
      exact Moment.adopts_iff.mp adopts
    · exact fun adopted => ⟨move, rfl, Moment.adopts_iff.mpr adopted⟩
  | work place | post place => exact ⟨nofun, nofun⟩

namespace Workshop

/-- The updates that workers have and that the primary has yet to post. -/
def unposted (workshop : Workshop σ ε τ) : List Value :=
  workshop.workers.filterMap Worker.update?

/-- The updates that are on their way to a portal: those that are queued for it, the next one first, and those that
the primary has yet to post. -/
def onTheirWay (workshop : Workshop σ ε τ) (id : String) : List Value :=
  workshop.exchange.underWay id ++ workshop.unposted

variable {crew : Crew σ ε τ} {workshop next : Workshop σ ε τ} {step : Step σ}

/-- What is queued for a portal moves up when one arrives, and behind it comes what the primary sends by itself or
what a worker has. -/
theorem Goes.underWay (goes : Goes crew workshop step next) (unspoken : Instant.Unspoken ⟨workshop, step⟩)
    (prompt : workshop.exchange.loop.Prompt) (id : String) :
    next.exchange.loop.Prompt ∧ ∃ rest new,
      workshop.exchange.underWay id = (Instant.brought? ⟨workshop, step⟩ id).toList ++ rest ∧
      next.exchange.underWay id = rest ++ new ∧
      ∀ data ∈ new, Instant.Makes crew ⟨workshop, step⟩ data ∨ data ∈ workshop.unposted := by
  cases goes with
  | @hired asked rest chore queue sets =>
    refine ⟨prompt, rest.filterMap (Job.update? id), [], ?_, (List.append_nil _).symm, List.forall_mem_nil _⟩
    have running : Moment.job? ⟨workshop.exchange, .job⟩ = some (.work (.answer asked)) := by
      simp only [Moment.job?, queue, List.head?_cons]
    simp only [Exchange.underWay, queue, Instant.brought?, running]
    rfl
  | @moved move free =>
    obtain ⟨rest, new, before, after, posted⟩ :=
      Moment.underWay_after crew.toAuthority (unspoken move rfl) prompt id
    have still : (Moment.after crew.toAuthority ⟨workshop.exchange, move⟩).loop.Prompt := Moment.prompt_after prompt
    exact ⟨still, rest, new, before, after,
      fun data member => Or.inl (makes_of_posted free (posted data member))⟩
  | @worked place stage worker source notices found done =>
    refine ⟨Loop.Prompt.performAll prompt _, workshop.exchange.underWay id, [], rfl, ?_, List.forall_mem_nil _⟩
    simp only [Exchange.underWay, Assembly.take, Loop.queue_notes, List.append_nil]
  | @posted place yield primary notices found replied =>
    refine ⟨Loop.Prompt.performAll prompt _, workshop.exchange.underWay id, ?_⟩
    obtain ⟨jobs, queue, own⟩ := workshop.exchange.loop.queue_performAll
      (workshop.exchange.state.takePrimary
        ⟨primary, workshop.exchange.state.source, notices, yield.answer.map some⟩).2
    refine ⟨jobs.filterMap (Job.update? id), rfl, ?_, ?_⟩
    · simp only [Exchange.underWay, Assembly.take, queue, List.filterMap_append]
    · intro data member
      obtain ⟨job, queued, brings⟩ := List.mem_filterMap.mp member
      obtain ⟨rfl, update⟩ := Job.update?_eq_some.mp brings
      obtain ⟨deed, done, rushes⟩ := own _ queued
      obtain ⟨sent, answered, same⟩ := Except.map_eq_ok.mp (Parties.delivery_takePrimary done (Or.inl rushes))
      cases same
      exact Or.inr (List.mem_filterMap.mpr
        ⟨_, List.mem_of_getElem? found, Worker.update?_of_answer answered update⟩)
  | rested still =>
    have unbrought : Instant.brought? ⟨workshop, step⟩ id = none := by
      cases step with
      | move move => exact absurd rfl (still move)
      | work place | post place => rfl
    refine ⟨prompt, workshop.exchange.underWay id, [], ?_, (List.append_nil _).symm, List.forall_mem_nil _⟩
    rw [unbrought]
    rfl

/-- A worker has an update from the instant on at which it comes to be. -/
theorem Goes.unposted (goes : Goes crew workshop step next) {data : Value} (member : data ∈ next.unposted) :
    Instant.Makes crew ⟨workshop, step⟩ data ∨ data ∈ workshop.unposted := by
  obtain ⟨worker, listed, has⟩ := List.mem_filterMap.mp member
  have known (old : worker ∈ workshop.workers) : data ∈ workshop.unposted := List.mem_filterMap.mpr ⟨worker, old, has⟩
  cases goes with
  | hired queue sets =>
    rcases List.mem_append.mp listed with old | new
    · exact Or.inr (known old)
    · rw [List.mem_singleton.mp new] at has
      cases has
  | moved free => exact Or.inr (known listed)
  | worked found done =>
    rcases List.mem_or_eq_of_mem_set listed with old | new
    · exact Or.inr (known old)
    · obtain ⟨yield, same, made⟩ := Worker.update?_eq_some has
      refine Or.inl (.worked rfl found ?_ made)
      rw [done, ← new, same]
  | posted found replied => exact Or.inr (known (List.mem_of_mem_eraseIdx listed))
  | rested still => exact Or.inr (known listed)

variable {allowed : Instant σ ε τ → Prop} {first : Workshop σ ε τ} {past later earlier : List (Instant σ ε τ)}
  {id : String}

/-- What is on its way to a portal was so at first or has come to be since. -/
theorem onTheirWay_of_run (prompt : first.exchange.loop.Prompt)
    (unspoken : ∀ instant, allowed instant → instant.Unspoken) (run : Run crew allowed first past workshop)
    (id : String) : workshop.exchange.loop.Prompt ∧ ∀ data ∈ workshop.onTheirWay id,
      data ∈ first.onTheirWay id ∨ ∃ building ∈ past, building.Makes crew data := by
  induction run with
  | start => exact ⟨prompt, fun data member => Or.inl member⟩
  | @next past workshop step previous permitted ih =>
    obtain ⟨still, since⟩ := ih
    have goes := workshop.goes crew step
    obtain ⟨after, rest, new, before, queued, own⟩ := goes.underWay (unspoken _ permitted) still id
    have sooner {data : Value} (member : data ∈ workshop.onTheirWay id) : data ∈ first.onTheirWay id ∨
        ∃ building ∈ (⟨workshop, step⟩ :: past : List (Instant σ ε τ)), building.Makes crew data :=
      (since data member).imp_right fun ⟨building, earlier, makes⟩ => ⟨building, List.mem_cons_of_mem _ earlier, makes⟩
    have held {data : Value} (member : Instant.Makes crew ⟨workshop, step⟩ data ∨ data ∈ workshop.unposted) :
        data ∈ first.onTheirWay id ∨
          ∃ building ∈ (⟨workshop, step⟩ :: past : List (Instant σ ε τ)), building.Makes crew data :=
      member.elim (fun makes => Or.inr ⟨_, List.mem_cons_self, makes⟩)
        fun unposted => sooner (List.mem_append_right _ unposted)
    refine ⟨after, fun data member => ?_⟩
    rcases List.mem_append.mp member with waits | unposted
    · rw [queued] at waits
      rcases List.mem_append.mp waits with old | late
      · refine sooner (List.mem_append_left _ ?_)
        rw [before]
        exact List.mem_append_right _ old
      · exact held (own data late)
    · exact held (goes.unposted unposted)

/-- A portal that waits for a snapshot and has not taken over one hears all that was queued for it at first before
anything else, as long as it listens. -/
theorem expected_of_run (prompt : first.exchange.loop.Prompt)
    (unspoken : ∀ instant, allowed instant → instant.Unspoken) (run : Run crew allowed first past workshop)
    {portal : Portal} (found : first.exchange.state.portals.get? id = some portal) (expects : portal.Expects)
    (unadopted : ∀ instant ∈ past, ∀ data, ¬ instant.Adopts id data)
    (listens : ∀ instant ∈ past, .portal id ∈ instant.workshop.exchange.loop.listeners) :
    ∃ now, workshop.exchange.state.portals.get? id = some now ∧ (now.phase = .closed ∨
      now.Expects ∧ ∃ new, workshop.exchange.underWay id = first.exchange.underWay id ++ new) := by
  induction run with
  | start => exact ⟨portal, found, Or.inr ⟨expects, [], (List.append_nil _).symm⟩⟩
  | @next past workshop step previous permitted ih =>
    obtain ⟨now, there, state⟩ := ih (fun instant member => unadopted instant (List.mem_cons_of_mem _ member))
      fun instant member => listens instant (List.mem_cons_of_mem _ member)
    have silent := unadopted _ List.mem_cons_self
    have listening := listens _ List.mem_cons_self
    have still := (onTheirWay_of_run prompt unspoken previous id).1
    have after := Instant.get?_portals_after crew ⟨workshop, step⟩ id
    rw [there, Option.map_some] at after
    refine ⟨_, after, ?_⟩
    rcases state with closed | ⟨waits, new, whole⟩
    · left
      rcases Instant.reaction_cases ⟨workshop, step⟩ id now with ⟨_, same⟩ | ⟨_, _, _, _, reacts⟩
      · rw [same]
        exact closed
      · exact reacts.closed_of_closed closed
    · have unstirred : Instant.brought? ⟨workshop, step⟩ id = none ∧
          ((Instant.reaction ⟨workshop, step⟩ id now).portal.phase = .closed ∨
            (Instant.reaction ⟨workshop, step⟩ id now).portal.Expects) := by
        cases step with
        | move move =>
          exact Moment.expects_after ⟨workshop.exchange, move⟩ there waits listening
            fun data adopts => silent data ⟨move, rfl, adopts⟩
        | work place | post place => exact ⟨rfl, Or.inr waits⟩
      obtain ⟨nothing, ends | waits⟩ := unstirred
      · exact Or.inl ends
      · obtain ⟨_, rest, more, before, queued, _⟩ :=
          (workshop.goes crew step).underWay (unspoken _ permitted) still id
        rw [nothing] at before
        refine Or.inr ⟨waits, new ++ more, queued.trans ?_⟩
        rw [← List.append_assoc, ← whole]
        exact congrArg (· ++ more) before.symm

/-- A portal in step that asks for a snapshot waits for it from then on, and its call brings nobody an update. -/
theorem expects_call (crew : Crew σ ε τ) {call : Instant σ ε τ} {portal : Portal}
    (called : call.step = .move (.call id .resync))
    (found : call.workshop.exchange.state.portals.get? id = some portal) (synced : portal.phase = .synced)
    (unspoken : call.Unspoken) (prompt : call.workshop.exchange.loop.Prompt) :
    (∃ next, (call.after crew).exchange.state.portals.get? id = some next ∧ next.Expects) ∧
      (call.after crew).exchange.underWay id = call.workshop.exchange.underWay id ∧
      (call.after crew).onTheirWay id = call.workshop.onTheirWay id := by
  obtain ⟨workshop, step⟩ := call
  have same : step = .move (.call id .resync) := called
  subst same
  have after := Instant.get?_portals_after crew ⟨workshop, .move (.call id .resync)⟩ id
  rw [found, Option.map_some] at after
  have reacting : Moment.stimulus? ⟨workshop.exchange, .call id .resync⟩ = some (id, .call .resync) := rfl
  have queued : (Instant.after crew ⟨workshop, .move (.call id .resync)⟩).exchange.underWay id =
      workshop.exchange.underWay id := by
    obtain ⟨rest, new, before, next, posted⟩ :=
      Moment.underWay_after crew.toAuthority (unspoken _ rfl) prompt id
    have none : new = [] := by
      rw [List.eq_nil_iff_forall_not_mem]
      intro data member
      cases posted data member
    rw [none, List.append_nil] at next
    exact next.trans before.symm
  refine ⟨⟨_, after, ?_⟩, queued, ?_⟩
  · simp only [Instant.reaction, Moment.reaction, reacting, if_true, Portal.react, Portal.obey, Portal.requestResync,
      if_neg (not_not.mpr synced), Portal.does]
    exact ⟨synced, rfl⟩
  · rw [onTheirWay, queued]
    rfl

/-- The first snapshot that a portal takes over after it has asked for one has come to be since, or was on its way to
it when it asked. If one was queued for it, it is that one, as long as the portal listens. -/
theorem adopted_of_resync {call : Instant σ ε τ} {portal : Portal} {data : Value}
    (prompt : first.exchange.loop.Prompt) (unspoken : ∀ instant, allowed instant → instant.Unspoken)
    (run : Run crew allowed first (later ++ call :: earlier) workshop)
    (called : call.step = .move (.call id .resync))
    (found : call.workshop.exchange.state.portals.get? id = some portal) (synced : portal.phase = .synced)
    (unadopted : ∀ instant ∈ later, ∀ other, ¬ instant.Adopts id other)
    (adopts : Instant.Adopts ⟨workshop, step⟩ id data) :
    (data ∈ call.workshop.onTheirWay id ∨ ∃ building ∈ later, building.Makes crew data) ∧
      ∀ oldest rest, call.workshop.exchange.underWay id = oldest :: rest →
        (∀ instant ∈ later, .portal id ∈ instant.workshop.exchange.loop.listeners) → data = oldest := by
  obtain ⟨before, permitted, since⟩ := run.split
  have still := (onTheirWay_of_run prompt unspoken before id).1
  obtain ⟨⟨next, there, expects⟩, queued, whole⟩ :=
    expects_call crew called found synced (unspoken call permitted) still
  have stillAfter : (call.after crew).exchange.loop.Prompt :=
    (call.workshop.goes crew call.step).underWay (unspoken call permitted) still id |>.1
  obtain ⟨move, taken, adopts⟩ := adopts
  obtain ⟨others, head⟩ := adopts.underWay
  have waits : data ∈ workshop.exchange.underWay id := by
    rw [head]
    exact List.mem_cons_self
  constructor
  · rw [← whole]
    exact (onTheirWay_of_run stillAfter unspoken since id).2 data (List.mem_append_left _ waits)
  · intro oldest rest old listens
    obtain ⟨now, here, closed | ⟨_, new, all⟩⟩ :=
      expected_of_run stillAfter unspoken since there expects unadopted listens
    · obtain ⟨again, _, where', _, wants, _⟩ := adopts
      cases here.symm.trans where'
      rcases Portal.phase_of_wants wants with phase | phase <;> cases closed.symm.trans phase
    · rw [queued, old] at all
      exact (List.cons.inj (head.symm.trans all)).1

end Workshop

end Workbench
