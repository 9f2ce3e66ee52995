import Workbench.Proofs.Sync.Primary

namespace Workbench

variable {σ ε : Type}

/-- Whether an envelope is one that only a primary sends. -/
def Message.isAuthoritative : Message → Bool
  | .update _ | .response .. => true
  | .ready _ | .request .. | .closing _ => false

namespace Moment

/-- Whether nobody but the primary posts updates and responses. -/
structure Unspoken (moment : Moment σ) : Prop where
  foreign : ∀ data sender message, moment.move = .post data sender → Message.parse data = .ok message →
    message.isAuthoritative = false
  own : ∀ id message, moment.move = .call id (.post message) → message.isAuthoritative = false

/-- A portal takes over a snapshot. -/
def Adopts (moment : Moment σ) (id : String) (data : Value) : Prop :=
  ∃ portal update, moment.exchange.state.portals.get? id = some portal ∧
    moment.stimulus? = some (id, .hear data) ∧ portal.wants = true ∧ Message.parse data = .ok (.update update)

/-- A portal that is in step hears a response that carries a history. -/
def Accepts (moment : Moment σ) (id key : String) (data : Value) : Prop :=
  ∃ portal histories addressee, moment.exchange.state.portals.get? id = some portal ∧
    moment.stimulus? = some (id, .hear data) ∧ portal.phase = .synced ∧
    Message.parse data = .ok (.response histories addressee) ∧ key ∈ histories.keys

/-- An envelope of a primary is put on its way by the primary alone. -/
theorem posted_of_origin {authority : Authority σ ε} {moment : Moment σ} (unspoken : moment.Unspoken)
    {deed : Deed Listener Duty} (origin : Origin authority moment deed) {listener : Listener} {data : Value}
    (leads : deed.LeadsTo (.delivery listener data)) {message : Message} (read : Message.parse data = .ok message)
    (authoritative : message.isAuthoritative = true) : moment.posted? authority = some data := by
  rcases origin.delivery leads with posted | ⟨id, portal, sent, found, own, dumped⟩ | ⟨sender, move⟩
  · exact posted
  · exfalso
    obtain ⟨arrived, made, same⟩ := Message.parse_of_dump dumped
    cases read.symm.trans same
    obtain ⟨stimulus, reacting, reacts⟩ := reacts_of_mem own
    have kind : sent.isAuthoritative = message.isAuthoritative := by
      cases sent with
      | update snapshot =>
        obtain ⟨_, _, rfl⟩ := Except.map_eq_ok.mp made
        rfl
      | response histories portal =>
        obtain ⟨_, _, rfl⟩ := Except.map_eq_ok.mp made
        rfl
      | _ => cases made; rfl
    rw [authoritative] at kind
    rcases reacts.sends own with rfl | rfl | ⟨payload, rfl⟩ | rfl
    · cases kind
    · cases kind
    · cases kind
    · rcases stimulus?_eq_some reacting with ⟨call, move, same⟩ | ⟨_, _, _, same⟩ | ⟨_, same⟩ | ⟨_, _, same⟩
      · cases same
        exact Bool.false_ne_true ((unspoken.own id sent move).symm.trans kind)
      all_goals cases same
  · exact absurd ((unspoken.foreign data sender message move read).symm.trans authoritative) Bool.false_ne_true

end Moment

/-- Every update and every response that is on its way was posted by the primary at some moment. -/
theorem posted_of_pending {authority : Authority σ ε} {allowed : Moment σ → Prop} {first exchange : Exchange σ}
    {past : List (Moment σ)} (run : Run authority allowed first past exchange)
    (quiet : first.loop.queue = [] ∧ first.loop.timers = []) (unspoken : ∀ moment, allowed moment → moment.Unspoken)
    {listener : Listener} {data : Value} {message : Message}
    (pending : exchange.loop.Pending (.delivery listener data)) (read : Message.parse data = .ok message)
    (authoritative : message.isAuthoritative = true) :
    ∃ moment ∈ past, moment.posted? authority = some data := by
  induction run with
  | start =>
    rcases pending with queued | ⟨timer, member, _⟩
    · rw [quiet.1] at queued
      cases queued
    · rw [quiet.2] at member
      cases member
  | @next past exchange move previous permitted ih =>
    have after : (Moment.after authority ⟨exchange, move⟩).loop.Pending (.delivery listener data) := pending
    rcases Moment.pending_after after with before | ⟨deed, origin, leads⟩
    · obtain ⟨moment, member, posted⟩ := ih before
      exact ⟨moment, List.mem_cons_of_mem _ member, posted⟩
    · exact ⟨_, List.mem_cons_self,
        Moment.posted_of_origin (unspoken _ permitted) origin leads read authoritative⟩

theorem posted_of_heard {authority : Authority σ ε} {allowed : Moment σ → Prop} {first exchange : Exchange σ}
    {past : List (Moment σ)} (run : Run authority allowed first past exchange)
    (quiet : first.loop.queue = [] ∧ first.loop.timers = []) (unspoken : ∀ moment, allowed moment → moment.Unspoken)
    {move : Move σ} {id : String} {data : Value} {message : Message}
    (heard : Moment.stimulus? ⟨exchange, move⟩ = some (id, .hear data)) (read : Message.parse data = .ok message)
    (authoritative : message.isAuthoritative = true) :
    ∃ moment ∈ past, moment.posted? authority = some data := by
  rcases Moment.stimulus?_eq_some heard with ⟨_, _, same⟩ | ⟨_, running, _, same⟩ | ⟨_, same⟩ | ⟨_, _, same⟩
  · cases same
  · cases same
    have queued := List.mem_of_head? (Moment.job?_eq_some.mp running).2
    exact posted_of_pending run quiet unspoken (Or.inl queued) read authoritative
  · cases same
  · cases same

theorem Run.allowed {authority : Authority σ ε} {allowed : Moment σ → Prop} {first exchange : Exchange σ}
    {past : List (Moment σ)} (run : Run authority allowed first past exchange) :
    ∀ moment ∈ past, allowed moment := by
  induction run with
  | start => exact nofun
  | next move previous permitted ih =>
    intro moment member
    rcases List.mem_cons.mp member with rfl | member
    · exact permitted
    · exact ih moment member

namespace Portal.Reacts

variable {portal : Portal} {stimulus : Stimulus} {outcome : PortalOutcome}

/-- The copy of a portal changes only by an update that it wants and by responses while it is in step. -/
theorem copies (reacts : Reacts portal stimulus outcome) :
    (∃ data update, stimulus = .hear data ∧ portal.wants = true ∧ Message.parse data = .ok (.update update) ∧
        ∀ snapshot, update.plain = .ok snapshot → outcome.portal.snapshot = some snapshot) ∨
      (∃ data histories addressee, stimulus = .hear data ∧ portal.phase = .synced ∧
        Message.parse data = .ok (.response histories addressee) ∧
        outcome.portal.snapshot = portal.merged histories) ∨
      outcome.portal.snapshot = portal.snapshot ∧ ∀ data, stimulus = .hear data →
        (∀ update, Message.parse data = .ok (.update update) → portal.wants = false) ∧
          ∀ histories addressee, Message.parse data = .ok (.response histories addressee) → portal.phase ≠ .synced := by
  cases reacts with
  | adopted data update snapshot wants read made =>
    refine Or.inl ⟨data, update, rfl, wants, read, ?_⟩
    intro other again
    cases made.symm.trans again
    rfl
  | unreadable data update fault wants read failed =>
    refine Or.inl ⟨data, update, rfl, wants, read, ?_⟩
    intro other again
    cases failed.symm.trans again
  | received data histories addressee synced read _ | served data histories addressee synced read _ =>
    exact Or.inr (Or.inl ⟨data, histories, addressee, rfl, synced, read, rfl⟩)
  | deaf data gone =>
    refine Or.inr (Or.inr ⟨rfl, ?_⟩)
    rintro _ ⟨⟩
    refine ⟨fun _ _ => ?_, fun _ _ _ synced => ?_⟩
    · rcases gone with gone | gone <;> simp [wants, gone]
    · rcases gone with gone | gone <;> cases gone.symm.trans synced
  | dropped data fault _ _ unread =>
    refine Or.inr (Or.inr ⟨rfl, ?_⟩)
    rintro _ ⟨⟩
    constructor
    · intro _ read
      cases unread.symm.trans read
    · intro _ _ read
      cases unread.symm.trans read
  | passed data message _ _ read passes =>
    refine Or.inr (Or.inr ⟨rfl, ?_⟩)
    rintro _ ⟨⟩
    constructor
    · intro update again
      cases read.symm.trans again
      simpa [Portal.passes] using passes
    · intro histories addressee again
      cases read.symm.trans again
      simpa [Portal.passes] using passes
  | _ => exact Or.inr (Or.inr ⟨rfl, by rintro _ ⟨⟩⟩)

/-- A portal that is in step has a copy, and one that has a copy keeps one. -/
theorem holds (reacts : Reacts portal stimulus outcome)
    (held : portal.phase = .synced → portal.snapshot.isSome = true) :
    (portal.snapshot.isSome = true → outcome.portal.snapshot.isSome = true) ∧
      (outcome.portal.phase = .synced → outcome.portal.snapshot.isSome = true) := by
  cases reacts <;> simp_all [does, refuses, giveUp, merged]

end Portal.Reacts

end Workbench
