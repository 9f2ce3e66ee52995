import Workbench.Proofs.Sync.Primary

namespace Workbench

variable {σ ε : Type}

/-- A source that never lets its primary down: its snapshots can be sent, and an action that does not fail
returns histories that can be sent. -/
structure Authority.Dependable (authority : Authority σ ε) : Prop where
  snapshot : ∀ source, ∃ snapshot sent, authority.snapshot source = .ok snapshot ∧ snapshot.plain = .ok sent
  act : ∀ portal payload source, ∃ histories sent,
    Schema.dictionary (Schema.list Schema.anyObject) (authority.histories portal payload source) = .valid histories ∧
      Message.plainHistories histories = .ok sent

/-- What a portal may wait for: a first snapshot, or the answer to an action under its name. -/
inductive Errand where
  | sync
  | action (name : String)

namespace Errand

def asks : Errand → Message → Prop
  | .sync, .ready _ => True
  | .action name, .request _ portal => portal = some name
  | _, _ => False

def replies : Errand → Message → Prop
  | .sync, .update _ => True
  | .action name, .response _ portal => portal = some name
  | _, _ => False

/-- A primary with a dependable source answers every question. -/
theorem answered {authority : Authority σ ε} (dependable : authority.Dependable) {errand : Errand}
    (named : ∀ name, errand = .action name → name ≠ "") {data : Value} {message : Message}
    (read : Message.parse data = .ok message) (asked : errand.asks message) (primary : Primary) (source : σ) :
    ∃ answer reply, (primary.answer authority source data).answer = .ok (some answer) ∧
      Message.parse answer = .ok reply ∧ errand.replies reply := by
  cases errand with
  | sync =>
    cases message with
    | ready portal =>
      obtain ⟨snapshot, sent, taken, made⟩ := dependable.snapshot source
      have arrives : (Message.update snapshot).sent = .ok (.update sent) := by
        simp only [Message.sent, made, Except.map]
      have dumped : (Message.update snapshot).dump = .ok (Message.update sent).toValue :=
        Message.dump_eq_ok.mpr ⟨_, arrives, rfl⟩
      refine ⟨_, .update sent, ?_, Message.parse_toValue _, trivial⟩
      rw [primary.answer_of_chore authority source read rfl]
      simp only [Chore.perform, Yield.answer, Primary.update, taken, Except.mapError, bind, Except.bind, dumped]
      rfl
    | _ => exact asked.elim
  | action name =>
    cases message with
    | request payload portal =>
      cases asked
      obtain ⟨histories, sent, valid, made⟩ := dependable.act name payload source
      have arrives : (Message.response histories (some name)).sent = .ok (.response sent (some name)) := by
        simp only [Message.sent, made, Except.map]
      have dumped : (Message.response histories (some name)).dump = .ok (Message.response sent (some name)).toValue :=
        Message.dump_eq_ok.mpr ⟨_, arrives, rfl⟩
      have addressed : Primary.addressee (some name) = name := by
        simp only [Primary.addressee, Option.filter, decide_eq_true (named name rfl), if_true, Option.getD_some]
      refine ⟨_, .response sent (some name), ?_, Message.parse_toValue _, rfl⟩
      unfold Authority.histories at valid
      rw [primary.answer_of_chore authority source read rfl, addressed]
      simp only [Chore.perform_action, Yield.answer, Primary.response, valid, Checked.toExcept, Except.mapError, bind,
        Except.bind, dumped]
      rfl
    | _ => exact asked.elim

end Errand

/-- Whether an errand is under way: its question has yet to reach the primary or to be answered, or its
answer has yet to reach the portal. -/
def UnderWay (jobs : List (Job Listener Duty)) (id : String) (errand : Errand) : Prop :=
  ∃ data message, Message.parse data = .ok message ∧
    (errand.asks message ∧ (.delivery .primary data ∈ jobs ∨ .work (.answer data) ∈ jobs) ∨
      errand.replies message ∧ .delivery (.portal id) data ∈ jobs)

theorem UnderWay.queue_ne_nil {jobs : List (Job Listener Duty)} {id : String} {errand : Errand}
    (underWay : UnderWay jobs id errand) : jobs ≠ [] := by
  rintro rfl
  obtain ⟨_, _, _, ⟨_, queued | queued⟩ | ⟨_, queued⟩⟩ := underWay <;> cases queued

/-- An errand stays under way until its answer reaches the portal. -/
theorem UnderWay.after {authority : Authority σ ε} (dependable : authority.Dependable) {moment : Moment σ}
    {id : String} {errand : Errand} (named : ∀ name, errand = .action name → name ≠ "")
    (underWay : UnderWay moment.exchange.loop.queue id errand) (full : moment.move ≠ .clear)
    (primary : .primary ∈ moment.exchange.loop.listeners) (portal : .portal id ∈ moment.exchange.loop.listeners)
    (unheard : ∀ data message, moment.job? = some (.delivery (.portal id) data) →
      Message.parse data = .ok message → ¬ errand.replies message) :
    UnderWay (moment.after authority).loop.queue id errand := by
  obtain ⟨data, message, read, ⟨asked, queued | queued⟩ | ⟨replied, queued⟩⟩ := underWay
  · by_cases running : moment.job? = some (.delivery .primary data)
    · have spawned : .spawn (.answer data) ∈ moment.deeds authority := Moment.mem_deeds_of_heard running primary
      exact ⟨data, message, read, Or.inl ⟨asked, Or.inr (Moment.work_after _ spawned (Or.inl rfl))⟩⟩
    · exact ⟨data, message, read, Or.inl ⟨asked, Or.inl (Moment.mem_queue_after queued running)⟩⟩
  · by_cases running : moment.job? = some (.work (.answer data))
    · obtain ⟨answer, reply, answered, arrives, replied⟩ :=
        Errand.answered dependable named read asked moment.exchange.state.primary moment.exchange.state.source
      have posted := Moment.mem_deeds_of_answered running answered
      have move := (Moment.job?_eq_some.mp running).1
      have stay : ∀ deed ∈ moment.deeds authority, deed.Stays :=
        Moment.stay (by simp [move]) (by simp [move]) (by simp [move])
      have delivered := Moment.delivery_after portal full stay posted (by simp)
      exact ⟨answer, reply, arrives, Or.inr ⟨replied, delivered⟩⟩
    · exact ⟨data, message, read, Or.inl ⟨asked, Or.inr (Moment.mem_queue_after queued running)⟩⟩
  · have waits : moment.job? ≠ some (.delivery (.portal id) data) :=
      fun running => unheard data message running read replied
    exact ⟨data, message, read, Or.inr ⟨replied, Moment.mem_queue_after queued waits⟩⟩

end Workbench
