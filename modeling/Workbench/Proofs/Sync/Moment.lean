import Workbench.Proofs.Sync.Run

namespace Workbench

variable {σ ε : Type}

namespace PortalDeed

/-- The jobs that may come of a deed of a portal. -/
def LeadsTo (id : String) : PortalDeed → Job Listener Duty → Prop
  | .send message, job => ∃ listener data, message.dump = .ok data ∧ job = .delivery listener data
  | .shake, job => job = .work (.shake id)
  | .shakeAfter _, job => job = .work (.shake id) ∨ job = .rouse (.shake id)
  | .alarm _ action, job => job = .work (.expire id action)
  | .join, _ | .leave, _ | .draw _, _ | .note _, _ => False

theorem leadsTo_of_toLoop {id : String} {act : PortalDeed} {deed : Deed Listener Duty} {job : Job Listener Duty}
    (member : deed ∈ act.toLoop id) (leads : deed.LeadsTo job) : act.LeadsTo id job := by
  cases act with
  | send message =>
    simp only [toLoop] at member
    split at member
    · rename_i data dumped
      cases List.mem_singleton.mp member
      obtain ⟨listener, same⟩ : Deed.Rushes _ _ := leads.resolve_right nofun
      exact ⟨listener, data, dumped, same⟩
    · cases member
  | draw drawing => cases member
  | join | leave | note notice =>
    cases List.mem_singleton.mp member
    exact leads.elim nofun nofun
  | shake =>
    cases List.mem_singleton.mp member
    exact leads.resolve_right nofun
  | shakeAfter span =>
    cases List.mem_singleton.mp member
    exact leads.imp And.right And.right
  | alarm span action =>
    cases List.mem_singleton.mp member
    exact leads.elim And.right And.right

end PortalDeed

namespace Moment

/-- What comes of a moment for a portal: its reaction, if it has something to react to. -/
def reaction (moment : Moment σ) (id : String) (portal : Portal) : PortalOutcome :=
  match moment.stimulus? with
  | some (other, stimulus) => if other = id then portal.react stimulus else portal.does []
  | none => portal.does []

theorem get?_portals_after (authority : Authority σ ε) (moment : Moment σ) (id : String) :
    (moment.after authority).state.portals.get? id =
      (moment.exchange.state.portals.get? id).map fun portal => (moment.reaction id portal).portal := by
  rw [portals_after]
  unfold reaction
  cases moment.stimulus? with
  | none => cases moment.exchange.state.portals.get? id <;> rfl
  | some reacting =>
    obtain ⟨other, stimulus⟩ := reacting
    dsimp only
    cases found : moment.exchange.state.portals.get? other with
    | none =>
      by_cases same : other = id
      · rw [← same, found]
        rfl
      · simp only [if_neg same]
        cases moment.exchange.state.portals.get? id <;> rfl
    | some portal =>
      dsimp only
      rw [Fields.get?_update]
      by_cases same : other = id
      · subst same
        simp only [if_pos, found, Option.map_some]
      · simp only [if_neg same]
        cases moment.exchange.state.portals.get? id <;> rfl

/-- Where a deed of a moment comes from. -/
inductive Origin (authority : Authority σ ε) (moment : Moment σ) : Deed Listener Duty → Prop
  | portal {id : String} {portal : Portal} {act : PortalDeed} {deed : Deed Listener Duty} :
      moment.exchange.state.portals.get? id = some portal → act ∈ (moment.reaction id portal).deeds →
      deed ∈ act.toLoop id → Origin authority moment deed
  | heard {data : Value} : moment.job? = some (.delivery .primary data) →
      Origin authority moment (.spawn (.answer data))
  | posted {data : Value} : moment.posted? authority = some data →
      Origin authority moment (.post data (some .primary))
  | given {data : Value} {sender : Option Listener} : moment.move = .post data sender →
      Origin authority moment (.post data sender)
  | joined {listener : Listener} : moment.move = .join listener → Origin authority moment (.subscribe listener)
  | left {listener : Listener} : moment.move = .leave listener → Origin authority moment (.unsubscribe listener)
  | roused {duty : Duty} : moment.job? = some (.rouse duty) → Origin authority moment (.proceed duty)
  | ended (failed : Bool) : Origin authority moment (.finish failed)
  | failed : Origin authority moment .fail
  | noted (notice : Notice) : Origin authority moment (.note notice)

theorem origin_takePortal {authority : Authority σ ε} {moment : Moment σ} {id : String}
    {stimulus : Portal.Stimulus} {portal : Portal} {deed : Deed Listener Duty}
    (reacting : moment.stimulus? = some (id, stimulus))
    (found : moment.exchange.state.portals.get? id = some portal)
    (member : deed ∈ (portal.react stimulus).deeds.flatMap (PortalDeed.toLoop id)) :
    Origin authority moment deed := by
  obtain ⟨act, own, leads⟩ := List.mem_flatMap.mp member
  refine .portal found ?_ leads
  simpa only [reaction, reacting, if_true] using own

theorem posted?_of_answered {authority : Authority σ ε} {moment : Moment σ} {data : Value} {answer : Option Value}
    (working : moment.answered? = some data) (unasked : ∀ given, moment.move ≠ .broadcast given)
    (answered : (moment.exchange.state.primary.answer authority moment.exchange.state.source data).answer =
      .ok answer) : moment.posted? authority = answer := by
  unfold posted?
  split
  · rename_i given move
    exact absurd move (unasked given)
  · simp only [working, answered]

theorem origin_takePrimary {authority : Authority σ ε} {moment : Moment σ} {data : Value}
    {deed : Deed Listener Duty} (working : moment.answered? = some data)
    (unasked : ∀ given, moment.move ≠ .broadcast given)
    (member : deed ∈ (moment.exchange.state.takePrimary
      (moment.exchange.state.primary.answer authority moment.exchange.state.source data)).2) :
    Origin authority moment deed := by
  simp only [Parties.takePrimary, List.mem_append, List.mem_map] at member
  rcases member with ⟨notice, _, rfl⟩ | member
  · exact .noted notice
  · cases answered : (moment.exchange.state.primary.answer authority moment.exchange.state.source data).answer with
    | error fault =>
      rw [answered, List.mem_singleton] at member
      rw [member]
      exact .ended true
    | ok answer =>
      have posted := posted?_of_answered working unasked answered
      rw [answered] at member
      cases answer with
      | none =>
        rw [List.mem_singleton.mp member]
        exact .ended false
      | some sent =>
        rcases List.mem_cons.mp member with rfl | member
        · exact .posted posted
        · rw [List.mem_singleton.mp member]
          exact .ended false

/-- Every deed comes from a portal's reaction, from the primary, from outside or from the loop itself. -/
theorem origin_of_mem {authority : Authority σ ε} {moment : Moment σ} {deed : Deed Listener Duty}
    (member : deed ∈ moment.deeds authority) : Origin authority moment deed := by
  unfold deeds at member
  split at member
  · cases member
  · cases member
  · cases member
  · rename_i id call move
    split at member
    · cases member
    · rename_i portal found
      have reacting : moment.stimulus? = some (id, .call call) := by simp only [stimulus?, move]
      exact origin_takePortal reacting found member
  · rename_i data sender move
    split at member
    · rw [List.mem_singleton.mp member]
      exact .given move
    · cases member
  · rename_i given move
    split at member
    · rename_i primary data sending
      rw [List.mem_singleton.mp member]
      exact .posted (by simp only [posted?, move, sending])
    · cases member
  · rename_i listener move
    rw [List.mem_singleton.mp member]
    exact .joined move
  · rename_i listener move
    rw [List.mem_singleton.mp member]
    exact .left move
  · rename_i move
    split at member
    · cases member
    · rename_i listener data head
      have running : moment.job? = some (.delivery listener data) := by simp only [job?, move, head]
      split at member
      · rename_i listening
        cases listener with
        | observer => cases member
        | primary =>
          rw [List.mem_singleton.mp member]
          exact .heard running
        | portal id =>
          have reacting : moment.stimulus? = some (id, .hear data) := by
            simp only [stimulus?, move, head, if_pos listening]
          simp only [Parties.hear] at member
          split at member
          · cases member
          · rename_i portal found
            rcases List.mem_append.mp member with member | member
            · exact origin_takePortal reacting found member
            · split at member
              · rw [List.mem_singleton.mp member]
                exact .failed
              · cases member
      · cases member
    · rename_i duty head
      have running : moment.job? = some (.work duty) := by simp only [job?, move, head]
      cases duty with
      | answer data =>
        exact origin_takePrimary (by simp only [answered?, running]) (by simp [move]) member
      | shake id =>
        simp only [Parties.resume] at member
        split at member
        · cases member
        · rename_i portal found
          have reacting : moment.stimulus? = some (id, .shake moment.exchange.loop.now) := by
            simp only [stimulus?, move, head]
          exact origin_takePortal reacting found member
      | expire id action =>
        simp only [Parties.resume] at member
        split at member
        · cases member
        · rename_i portal found
          have reacting : moment.stimulus? = some (id, .expire action) := by simp only [stimulus?, move, head]
          exact origin_takePortal reacting found member
    · rename_i duty head
      rw [List.mem_singleton.mp member]
      exact .roused (by simp only [job?, move, head])
    · split at member
      · rw [List.mem_singleton.mp member]
        exact .failed
      · cases member

theorem job?_eq_some {moment : Moment σ} {job : Job Listener Duty} :
    moment.job? = some job ↔ moment.move = .job ∧ moment.exchange.loop.queue.head? = some job := by
  unfold job?
  cases moment.move <;> simp

theorem stimulus?_eq_some {moment : Moment σ} {id : String} {stimulus : Portal.Stimulus}
    (reacting : moment.stimulus? = some (id, stimulus)) :
    (∃ call, moment.move = .call id call ∧ stimulus = .call call) ∨
      (∃ data, moment.job? = some (.delivery (.portal id) data) ∧ .portal id ∈ moment.exchange.loop.listeners ∧
        stimulus = .hear data) ∨
      (moment.job? = some (.work (.shake id)) ∧ stimulus = .shake moment.exchange.loop.now) ∨
      ∃ action, moment.job? = some (.work (.expire id action)) ∧ stimulus = .expire action := by
  unfold stimulus? at reacting
  split at reacting
  · rename_i other call move
    cases reacting
    exact Or.inl ⟨call, move, rfl⟩
  · rename_i move
    split at reacting
    · rename_i other data head
      split at reacting
      · rename_i listening
        cases reacting
        exact Or.inr (Or.inl ⟨data, job?_eq_some.mpr ⟨move, head⟩, listening, rfl⟩)
      · cases reacting
    · rename_i other head
      cases reacting
      exact Or.inr (Or.inr (Or.inl ⟨job?_eq_some.mpr ⟨move, head⟩, rfl⟩))
    · rename_i other action head
      cases reacting
      exact Or.inr (Or.inr (Or.inr ⟨action, job?_eq_some.mpr ⟨move, head⟩, rfl⟩))
    · cases reacting
  · cases reacting

theorem stimulus?_of_delivery {moment : Moment σ} {id : String} {data : Value}
    (running : moment.job? = some (.delivery (.portal id) data))
    (listens : .portal id ∈ moment.exchange.loop.listeners) : moment.stimulus? = some (id, .hear data) := by
  obtain ⟨move, head⟩ := job?_eq_some.mp running
  simp only [stimulus?, move, head, if_pos listens]

theorem stimulus?_of_shake {moment : Moment σ} {id : String} (running : moment.job? = some (.work (.shake id))) :
    moment.stimulus? = some (id, .shake moment.exchange.loop.now) := by
  obtain ⟨move, head⟩ := job?_eq_some.mp running
  simp only [stimulus?, move, head]

/-- A portal does nothing or reacts to the stimulus of the moment. -/
theorem reaction_cases (moment : Moment σ) (id : String) (portal : Portal) :
    (∀ stimulus, moment.stimulus? ≠ some (id, stimulus)) ∧ moment.reaction id portal = portal.does [] ∨
      ∃ stimulus, moment.stimulus? = some (id, stimulus) ∧
        Portal.Reacts portal stimulus (moment.reaction id portal) := by
  unfold reaction
  cases moment.stimulus? with
  | none => exact Or.inl ⟨nofun, rfl⟩
  | some reacting =>
    obtain ⟨other, stimulus⟩ := reacting
    by_cases same : other = id
    · subst same
      exact Or.inr ⟨stimulus, rfl, by simpa only [if_true] using portal.reacts stimulus⟩
    · refine Or.inl ⟨?_, by simp only [if_neg same]⟩
      rintro _ reacting
      cases reacting
      exact same rfl

theorem reacts_of_mem {moment : Moment σ} {id : String} {portal : Portal} {act : PortalDeed}
    (member : act ∈ (moment.reaction id portal).deeds) :
    ∃ stimulus, moment.stimulus? = some (id, stimulus) ∧
      Portal.Reacts portal stimulus (moment.reaction id portal) := by
  rcases moment.reaction_cases id portal with ⟨_, still⟩ | reacting
  · rw [still] at member
    cases member
  · exact reacting

theorem mem_deeds_of_reaction {authority : Authority σ ε} {moment : Moment σ} {id : String} {portal : Portal}
    {act : PortalDeed} {deed : Deed Listener Duty} (found : moment.exchange.state.portals.get? id = some portal)
    (own : act ∈ (moment.reaction id portal).deeds) (leads : deed ∈ act.toLoop id) :
    deed ∈ moment.deeds authority := by
  unfold reaction at own
  split at own
  · rename_i other stimulus reacting
    split at own
    · rename_i same
      subst same
      have done : deed ∈ (portal.react stimulus).deeds.flatMap (PortalDeed.toLoop other) :=
        List.mem_flatMap.mpr ⟨act, own, leads⟩
      rcases stimulus?_eq_some reacting with ⟨call, move, rfl⟩ | ⟨data, running, listening, rfl⟩ |
          ⟨running, rfl⟩ | ⟨action, running, rfl⟩
      · simp only [deeds, move, found]
        exact done
      · obtain ⟨move, head⟩ := job?_eq_some.mp running
        simp only [deeds, move, head, if_pos listening, Parties.hear, found]
        exact List.mem_append_left _ done
      · obtain ⟨move, head⟩ := job?_eq_some.mp running
        simp only [deeds, move, head, Parties.resume, found]
        exact done
      · obtain ⟨move, head⟩ := job?_eq_some.mp running
        simp only [deeds, move, head, Parties.resume, found]
        exact done
    · cases own
  · cases own

theorem mem_deeds_of_heard {authority : Authority σ ε} {moment : Moment σ} {data : Value}
    (running : moment.job? = some (.delivery .primary data)) (listening : .primary ∈ moment.exchange.loop.listeners) :
    .spawn (.answer data) ∈ moment.deeds authority := by
  obtain ⟨move, head⟩ := job?_eq_some.mp running
  simp only [deeds, move, head, if_pos listening, Parties.hear, List.mem_singleton]

theorem mem_deeds_of_answered {authority : Authority σ ε} {moment : Moment σ} {data answer : Value}
    (running : moment.job? = some (.work (.answer data)))
    (answered : (moment.exchange.state.primary.answer authority moment.exchange.state.source data).answer =
      .ok (some answer)) :
    .post answer (some .primary) ∈ moment.deeds authority := by
  obtain ⟨move, head⟩ := job?_eq_some.mp running
  simp only [deeds, move, head, Parties.resume, Parties.takePrimary, answered]
  exact List.mem_append_right _ List.mem_cons_self

/-- The time moves only when the clock is turned. -/
theorem now_after (authority : Authority σ ε) {moment : Moment σ} (still : ∀ time, moment.move ≠ .turn time) :
    (moment.after authority).loop.now = moment.exchange.loop.now := by
  rw [loop_after, Loop.now_performAll]
  unfold ground
  split
  · rfl
  · rename_i time move
    exact absurd move (still time)
  · split <;> rfl
  · rfl

theorem mem_queue_after {authority : Authority σ ε} {moment : Moment σ} {job : Job Listener Duty}
    (queued : job ∈ moment.exchange.loop.queue) (waits : moment.job? ≠ some job) :
    job ∈ (moment.after authority).loop.queue := by
  rw [loop_after]
  refine Loop.mem_queue_performAll ?_
  unfold ground
  split
  · exact queued
  · exact List.mem_append_left _ queued
  · rename_i move
    have left : job ∈ moment.exchange.loop.queue.tail := by
      unfold job? at waits
      rw [move] at waits
      cases whole : moment.exchange.loop.queue with
      | nil => rw [whole] at queued; cases queued
      | cons first rest =>
        rw [whole] at queued waits
        rcases List.mem_cons.mp queued with rfl | member
        · exact absurd rfl waits
        · exact member
    split <;> exact left
  · exact queued

/-- Whatever is to come after a moment was to come before it or comes of one of its deeds. -/
theorem pending_after {authority : Authority σ ε} {moment : Moment σ} {job : Job Listener Duty}
    (pending : (moment.after authority).loop.Pending job) :
    moment.exchange.loop.Pending job ∨ ∃ deed, Origin authority moment deed ∧ deed.LeadsTo job := by
  rw [loop_after] at pending
  rcases Loop.pending_performAll pending with before | ⟨deed, member, leads⟩
  · left
    unfold ground at before
    split at before
    · exact before
    · exact Loop.pending_turnTo.mp before
    · split at before <;> exact before.imp_left List.mem_of_mem_tail
    · exact before
  · exact Or.inr ⟨deed, origin_of_mem member, leads⟩

theorem queued_after {authority : Authority σ ε} {moment : Moment σ} {job : Job Listener Duty}
    (queued : job ∈ (moment.after authority).loop.queue) :
    job ∈ moment.exchange.loop.queue ∨
      (∃ time, moment.move = .turn time) ∧ moment.exchange.loop.Awaits job ∨
      ∃ deed, Origin authority moment deed ∧ deed.Rushes job := by
  rw [loop_after] at queued
  rcases Loop.queued_performAll queued with before | ⟨deed, member, rushes⟩
  · unfold ground at before
    split at before
    · exact Or.inl before
    · rename_i time move
      rcases List.mem_append.mp before with old | due
      · exact Or.inl old
      · obtain ⟨timer, waited, same⟩ := List.mem_map.mp due
        have member := (List.mem_filter.mp (List.mem_mergeSort.mp waited)).1
        exact Or.inr (Or.inl ⟨⟨time, move⟩, timer, member, same⟩)
    · split at before <;> exact Or.inl (List.mem_of_mem_tail before)
    · exact Or.inl before
  · exact Or.inr (Or.inr ⟨deed, origin_of_mem member, rushes⟩)

theorem listeners_ground {moment : Moment σ} (full : moment.move ≠ .clear) :
    moment.ground.listeners = moment.exchange.loop.listeners := by
  unfold ground
  split
  · rename_i move
    exact absurd move full
  · rfl
  · split <;> rfl
  · rfl

theorem mem_listeners_after {authority : Authority σ ε} {moment : Moment σ} {listener : Listener}
    (listens : listener ∈ moment.exchange.loop.listeners) (full : moment.move ≠ .clear)
    (stays : .unsubscribe listener ∉ moment.deeds authority) :
    listener ∈ (moment.after authority).loop.listeners := by
  rw [loop_after]
  refine Loop.mem_listeners_performAll ?_ stays
  rw [listeners_ground full]
  exact listens

/-- Where nobody joins or leaves, a message that is posted is on its way to all who listen but its sender. -/
theorem delivery_after {authority : Authority σ ε} {moment : Moment σ} {listener : Listener}
    {data : Value} {sender : Option Listener} (listens : listener ∈ moment.exchange.loop.listeners)
    (full : moment.move ≠ .clear) (stay : ∀ deed ∈ moment.deeds authority, deed.Stays)
    (posted : .post data sender ∈ moment.deeds authority) (other : sender ≠ some listener) :
    .delivery listener data ∈ (moment.after authority).loop.queue := by
  rw [loop_after]
  refine (Loop.mem_queue_performAll_iff stay).mpr (Or.inr ⟨_, posted, listener, ?_, rfl⟩)
  unfold Loop.recipients
  rw [listeners_ground full]
  exact List.mem_filter.mpr ⟨listens, by simpa using other⟩

theorem work_after {authority : Authority σ ε} {moment : Moment σ} {duty : Duty}
    (deed : Deed Listener Duty) (member : deed ∈ moment.deeds authority)
    (queues : deed = .spawn duty ∨ deed = .proceed duty) :
    .work duty ∈ (moment.after authority).loop.queue := by
  rw [loop_after]
  refine Loop.mem_queue_of_deed member ?_
  intro loop
  rcases queues with rfl | rfl <;> rfl

theorem unsubscribes {authority : Authority σ ε} {moment : Moment σ} {listener : Listener}
    (member : .unsubscribe listener ∈ moment.deeds authority) :
    moment.move = .leave listener ∨ ∃ id, listener = .portal id ∧ moment.move = .call id .close := by
  cases origin_of_mem member with
  | left move => exact Or.inl move
  | @portal id portal act _ found own leads =>
    cases act with
    | leave =>
      obtain ⟨stimulus, reacting, reacts⟩ := reacts_of_mem own
      cases List.mem_singleton.mp leads
      rcases stimulus?_eq_some reacting with ⟨call, move, same⟩ | ⟨_, _, _, same⟩ | ⟨_, same⟩ | ⟨_, _, same⟩
      · cases (reacts.leaves own).symm.trans same
        exact Or.inr ⟨id, rfl, move⟩
      all_goals cases (reacts.leaves own).symm.trans same
    | send message =>
      simp only [PortalDeed.toLoop] at leads
      split at leads
      · cases List.mem_singleton.mp leads
      · cases leads
    | _ => simp [PortalDeed.toLoop] at leads

theorem subscribes {authority : Authority σ ε} {moment : Moment σ} {listener : Listener}
    (member : .subscribe listener ∈ moment.deeds authority) :
    moment.move = .join listener ∨ ∃ id, listener = .portal id ∧ moment.move = .call id .start := by
  cases origin_of_mem member with
  | joined move => exact Or.inl move
  | @portal id portal act _ found own leads =>
    cases act with
    | join =>
      obtain ⟨stimulus, reacting, reacts⟩ := reacts_of_mem own
      cases List.mem_singleton.mp leads
      rcases stimulus?_eq_some reacting with ⟨call, move, same⟩ | ⟨_, _, _, same⟩ | ⟨_, same⟩ | ⟨_, _, same⟩
      · cases (reacts.joins own).symm.trans same
        exact Or.inr ⟨id, rfl, move⟩
      all_goals cases (reacts.joins own).symm.trans same
    | send message =>
      simp only [PortalDeed.toLoop] at leads
      split at leads
      · cases List.mem_singleton.mp leads
      · cases leads
    | _ => simp [PortalDeed.toLoop] at leads

/-- Only who is told to joins or leaves. -/
theorem stay {authority : Authority σ ε} {moment : Moment σ}
    (unjoined : ∀ listener, moment.move ≠ .join listener) (unleft : ∀ listener, moment.move ≠ .leave listener)
    (uncalled : ∀ id, moment.move ≠ .call id .start ∧ moment.move ≠ .call id .close) :
    ∀ deed ∈ moment.deeds authority, deed.Stays := by
  intro deed member
  cases deed with
  | subscribe listener =>
    rcases subscribes member with move | ⟨id, _, move⟩
    · exact absurd move (unjoined listener)
    · exact absurd move (uncalled id).1
  | unsubscribe listener =>
    rcases unsubscribes member with move | ⟨id, _, move⟩
    · exact absurd move (unleft listener)
    · exact absurd move (uncalled id).2
  | _ => trivial

/-- A message on its way was posted by the primary, by a portal or from outside. -/
theorem Origin.delivery {authority : Authority σ ε} {moment : Moment σ} {deed : Deed Listener Duty}
    (origin : Origin authority moment deed) {listener : Listener} {data : Value}
    (leads : deed.LeadsTo (.delivery listener data)) :
    moment.posted? authority = some data ∨
      (∃ id portal message, moment.exchange.state.portals.get? id = some portal ∧
        .send message ∈ (moment.reaction id portal).deeds ∧ message.dump = .ok data) ∨
      ∃ sender, moment.move = .post data sender := by
  cases origin with
  | @portal id portal act _ found own does =>
    have follows := PortalDeed.leadsTo_of_toLoop does leads
    cases act with
    | send message =>
      obtain ⟨_, _, dumped, same⟩ := follows
      cases same
      exact Or.inr (Or.inl ⟨id, portal, message, found, own, dumped⟩)
    | _ => simp [PortalDeed.LeadsTo] at follows
  | posted posted =>
    obtain ⟨_, same⟩ : Deed.Rushes _ _ := leads.resolve_right nofun
    cases same
    exact Or.inl posted
  | @given _ sender move =>
    obtain ⟨_, same⟩ : Deed.Rushes _ _ := leads.resolve_right nofun
    cases same
    exact Or.inr (Or.inr ⟨sender, move⟩)
  | _ => simp [Deed.LeadsTo, Deed.Rushes, Deed.Delays] at leads

/-- Only announcements are put off. -/
theorem Origin.rouse {authority : Authority σ ε} {moment : Moment σ} {deed : Deed Listener Duty}
    (origin : Origin authority moment deed) {duty : Duty} (leads : deed.LeadsTo (.rouse duty)) :
    ∃ id, duty = .shake id := by
  cases origin with
  | @portal id portal act _ found own does =>
    have follows := PortalDeed.leadsTo_of_toLoop does leads
    cases act with
    | shakeAfter span =>
      rcases follows with same | same
      · cases same
      · cases same
        exact ⟨id, rfl⟩
    | _ => simp [PortalDeed.LeadsTo] at follows
  | _ => simp [Deed.LeadsTo, Deed.Rushes, Deed.Delays] at leads

/-- The time for an answer runs out by an alarm that the portal has set. -/
theorem Origin.expire {authority : Authority σ ε} {moment : Moment σ} {deed : Deed Listener Duty}
    (origin : Origin authority moment deed) {id : String} {action : Nat}
    (leads : deed.LeadsTo (.work (.expire id action))) :
    moment.job? = some (.rouse (.expire id action)) ∨ ∃ portal span,
      moment.exchange.state.portals.get? id = some portal ∧ .alarm span action ∈ (moment.reaction id portal).deeds ∧
        deed = .alarm span (.expire id action) := by
  cases origin with
  | @portal other portal act _ found own does =>
    have follows := PortalDeed.leadsTo_of_toLoop does leads
    cases act with
    | alarm span number =>
      cases List.mem_singleton.mp does
      cases follows
      exact Or.inr ⟨portal, span, found, own, rfl⟩
    | _ => simp [PortalDeed.LeadsTo] at follows
  | roused running =>
    have same : Deed.Rushes _ _ := leads.resolve_right nofun
    cases same
    exact Or.inl running
  | _ => simp [Deed.LeadsTo, Deed.Rushes, Deed.Delays] at leads

end Moment

end Workbench
