import Workbench.Proofs.Sync.Moment
import Workbench.Proofs.Sync.Wire

namespace Workbench

variable {σ ε : Type}

/-- Whom the primary serves with an action when it answers data: nobody, unless the data is a request. -/
def Primary.served? (data : Value) : Option (String × String) :=
  match Message.parse data with
  | .ok (.request payload portal) => some (addressee portal, payload)
  | _ => none

/-- Whom the primary serves with an action at a moment. -/
def Moment.served? (moment : Moment σ) : Option (String × String) :=
  moment.answered?.bind Primary.served?

/-- The histories that come of an action; one that fails has none. -/
def Primary.historiesOf : Except String Value → Value
  | .ok histories => histories
  | .error _ => .object []

/-- The histories of an action as the source is now. -/
def Authority.histories (authority : Authority σ ε) (portal payload : String) (source : σ) : Value :=
  Primary.historiesOf (authority.act portal payload source).1

/-- What is posted for a yield, whoever posts it. -/
def Yield.answer : Yield ε → Except (PrimaryFault ε) Value
  | .snapshot taken => taken.mapError .source >>= Primary.update
  | .action portal histories => Primary.response (Primary.historiesOf histories) portal

theorem Primary.answer_reply (primary : Primary) (yield : Yield ε) : (primary.reply yield).2.2 = yield.answer := by
  cases yield with
  | snapshot taken =>
    cases taken with
    | error fault => rfl
    | ok snapshot =>
      simp only [reply, Yield.answer, send, Except.mapError, bind, Except.bind]
      cases (update snapshot : Except (PrimaryFault ε) Value) <;> rfl
  | action portal histories =>
    cases histories with
    | ok histories =>
      simp only [reply, Yield.answer, historiesOf]
      cases (response histories portal : Except (PrimaryFault ε) Value) <;> rfl
    | error text =>
      simp only [reply, Yield.answer, historiesOf]
      cases (response (.object []) portal : Except (PrimaryFault ε) Value) <;> rfl

theorem Chore.perform_action (authority : Authority σ ε) (source : σ) (portal payload : String) :
    (Chore.action portal payload).perform authority source =
      (.action portal (authority.act portal payload source).1, (authority.act portal payload source).2.1,
        (authority.act portal payload source).2.2) :=
  rfl

/-- What is posted for a message that sets a chore is what comes of the chore. -/
theorem Primary.answer_of_chore (authority : Authority σ ε) (primary : Primary) (source : σ) {data : Value}
    {message : Message} {chore : Chore} (read : Message.parse data = .ok message) (sets : chore? message = some chore) :
    (primary.answer authority source data).answer = (chore.perform authority source).1.answer.map some := by
  unfold answer
  simp only [read, sets, serve, answer_reply]

/-- Only a request reaches the source, by the action that it asks for. -/
theorem Primary.source_answer (authority : Authority σ ε) (primary : Primary) (source : σ) (data : Value) :
    (primary.answer authority source data).source =
      match served? data with
      | some (portal, payload) => (authority.act portal payload source).2.1
      | none => source := by
  unfold answer served?
  cases Message.parse data with
  | error fault => rfl
  | ok message => cases message <;> rfl

theorem Primary.broadcast_eq_ok {authority : Authority σ ε} {primary next : Primary} {source : σ}
    {given : Option Snapshot} {data : Value} (sent : primary.broadcast authority source given = .ok (next, data)) :
    ∃ snapshot, (given = some snapshot ∨ given = none ∧ authority.snapshot source = .ok snapshot) ∧
      (Message.update snapshot).dump = .ok data := by
  cases given with
  | none =>
    obtain ⟨snapshot, taken, sent⟩ := Except.bind_eq_ok.mp sent
    obtain ⟨update, made, same⟩ := Except.map_eq_ok.mp sent
    cases same
    exact ⟨snapshot, Or.inr ⟨rfl, Except.mapError_eq_ok.mp taken⟩, Except.mapError_eq_ok.mp made⟩
  | some snapshot =>
    obtain ⟨update, made, same⟩ := Except.map_eq_ok.mp sent
    cases same
    exact ⟨snapshot, Or.inl rfl, Except.mapError_eq_ok.mp made⟩

theorem Primary.response_eq_ok {histories : Value} {portal : String} {data : Value}
    (sent : (response histories portal : Except (PrimaryFault ε) Value) = .ok data) :
    ∃ read, Schema.dictionary (Schema.list Schema.anyObject) histories = .valid read ∧
      (Message.response read (some portal)).dump = .ok data := by
  obtain ⟨read, checked, sent⟩ := Except.bind_eq_ok.mp sent
  refine ⟨read, ?_, Except.mapError_eq_ok.mp sent⟩
  have valid := Except.mapError_eq_ok.mp checked
  cases outcome : Schema.dictionary (Schema.list Schema.anyObject) histories with
  | valid found =>
    rw [outcome] at valid
    exact congrArg Checked.valid (Except.ok.inj valid)
  | invalid failures =>
    rw [outcome] at valid
    cases valid

/-- What is posted for a yield is the update of its snapshot or the response with its histories. -/
theorem Yield.answer_eq_ok {yield : Yield ε} {data : Value} (answered : yield.answer = .ok data) :
    (∃ snapshot, yield = .snapshot (.ok snapshot) ∧ (Message.update snapshot).dump = .ok data) ∨
      ∃ portal outcome histories, yield = .action portal outcome ∧
        Schema.dictionary (Schema.list Schema.anyObject) (Primary.historiesOf outcome) = .valid histories ∧
        (Message.response histories (some portal)).dump = .ok data := by
  cases yield with
  | snapshot taken =>
    obtain ⟨snapshot, same, updated⟩ := Except.bind_eq_ok.mp answered
    cases Except.mapError_eq_ok.mp same
    exact Or.inl ⟨snapshot, rfl, Except.mapError_eq_ok.mp updated⟩
  | action portal outcome =>
    obtain ⟨histories, valid, dumped⟩ := Primary.response_eq_ok answered
    exact Or.inr ⟨portal, outcome, histories, rfl, valid, dumped⟩

/-- An announcement is answered with the snapshot of the source and a request with the histories of its
action; nothing else is answered. -/
theorem Primary.answer_eq_some {authority : Authority σ ε} {primary : Primary} {source : σ} {data answer : Value}
    (answered : (primary.answer authority source data).answer = .ok (some answer)) :
    (∃ portal snapshot, Message.parse data = .ok (.ready portal) ∧ authority.snapshot source = .ok snapshot ∧
        (Message.update snapshot).dump = .ok answer) ∨
      ∃ payload portal histories, Message.parse data = .ok (.request payload portal) ∧
        Schema.dictionary (Schema.list Schema.anyObject) (authority.histories (addressee portal) payload source) =
          .valid histories ∧
        (Message.response histories (some (addressee portal))).dump = .ok answer := by
  cases read : Message.parse data with
  | error fault =>
    simp only [Primary.answer, read] at answered
    cases answered
  | ok message =>
    cases sets : chore? message with
    | none =>
      simp only [Primary.answer, read, sets] at answered
      cases answered
    | some chore =>
      rw [primary.answer_of_chore authority source read sets] at answered
      obtain ⟨sent, yielded, same⟩ := Except.map_eq_ok.mp answered
      cases same
      cases message with
      | ready portal =>
        cases sets
        rcases Yield.answer_eq_ok yielded with ⟨snapshot, taken, dumped⟩ | ⟨_, _, _, same, _⟩
        · exact Or.inl ⟨portal, snapshot, rfl, Yield.snapshot.inj taken, dumped⟩
        · cases same
      | request payload portal =>
        cases sets
        rw [Chore.perform_action] at yielded
        rcases Yield.answer_eq_ok yielded with ⟨_, same, _⟩ | ⟨_, _, histories, same, valid, dumped⟩
        · cases same
        · cases same
          exact Or.inr ⟨payload, portal, histories, rfl, valid, dumped⟩
      | update snapshot | response histories portal | closing portal => cases sets

theorem Moment.source_served (authority : Authority σ ε) (moment : Moment σ)
    (unchanged : ∀ source, moment.move ≠ .change source) :
    (moment.after authority).state.source =
      match moment.served? with
      | some (portal, payload) => (authority.act portal payload moment.exchange.state.source).2.1
      | none => moment.exchange.state.source := by
  rw [source_after]
  split
  · rename_i source move
    exact absurd move (unchanged source)
  · unfold served?
    cases moment.answered? with
    | none => rfl
    | some data => exact Primary.source_answer authority _ _ data

/-- What the primary posts is the update of a snapshot or the response to a request. -/
theorem Moment.posted_eq_some {authority : Authority σ ε} {moment : Moment σ} {data : Value}
    (posted : moment.posted? authority = some data) :
    (∃ snapshot, (moment.move = .broadcast (some snapshot) ∨
        authority.snapshot moment.exchange.state.source = .ok snapshot) ∧ (Message.update snapshot).dump = .ok data) ∨
      ∃ asked payload portal histories, moment.answered? = some asked ∧
        Message.parse asked = .ok (.request payload portal) ∧
        Schema.dictionary (Schema.list Schema.anyObject)
          (authority.histories (Primary.addressee portal) payload moment.exchange.state.source) = .valid histories ∧
        (Message.response histories (some (Primary.addressee portal))).dump = .ok data := by
  unfold posted? at posted
  split at posted
  · rename_i given move
    left
    split at posted
    · rename_i primary sent broadcasted
      cases posted
      obtain ⟨snapshot, rfl | ⟨_, taken⟩, dumped⟩ := Primary.broadcast_eq_ok broadcasted
      · exact ⟨snapshot, Or.inl move, dumped⟩
      · exact ⟨snapshot, Or.inr taken, dumped⟩
    · cases posted
  · split at posted
    · cases posted
    · rename_i asked working
      split at posted
      · rename_i answer answered
        rw [posted] at answered
        rcases Primary.answer_eq_some answered with ⟨_, snapshot, _, taken, dumped⟩ |
          ⟨payload, portal, histories, read, valid, dumped⟩
        · exact Or.inl ⟨snapshot, Or.inr taken, dumped⟩
        · exact Or.inr ⟨asked, payload, portal, histories, working, read, valid, dumped⟩
      · cases posted

end Workbench
