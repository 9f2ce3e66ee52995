import Workbench.Proofs.Sync.Attended

namespace Workbench

variable {σ ε : Type}

theorem Exchange.Opens.attended {exchange : Exchange σ} (opens : exchange.Opens) :
    exchange.Attentive ∧
      ∀ id portal, exchange.state.portals.get? id = some portal → Attended exchange id portal := by
  have nothing (job : Job Listener Duty) : ¬ exchange.loop.Pending job := by
    rintro (queued | ⟨timer, member, _⟩)
    · rw [opens.queue] at queued
      cases queued
    · rw [opens.timers] at member
      cases member
  refine ⟨⟨opens.listening, fun _ _ _ pending => absurd pending (nothing _), fun _ _ => nothing _⟩, ?_⟩
  intro id portal found
  obtain ⟨name, patience, historyKeys, rfl, named, patient, timed⟩ := opens.portals id portal found
  exact {
    named := named, patient := patient, timed := timed
    working := nofun
    fresh := fun _ => ⟨rfl, rfl⟩
    listens := nofun
    shakes := nofun
    waits := nofun
    armed := nofun
    counted := fun action pending => absurd pending (nothing _)
    outdated := fun action queued => absurd (Or.inl queued) (nothing _) }

theorem attended_of_run {authority : Authority σ ε} (dependable : authority.Dependable)
    {first exchange : Exchange σ} {past : List (Moment σ)} (opens : first.Opens)
    (run : Run authority Moment.Attends first past exchange) :
    exchange.Attentive ∧
      ∀ id portal, exchange.state.portals.get? id = some portal → Attended exchange id portal := by
  refine run.invariant (fun exchange => exchange.Attentive ∧
    ∀ id portal, exchange.state.portals.get? id = some portal → Attended exchange id portal) opens.attended ?_
  rintro moment attends ⟨attentive, attended⟩
  refine ⟨attentive.after attends, ?_⟩
  intro id portal found
  have came := Moment.get?_portals_after authority moment id
  rw [Moment.after] at came
  obtain ⟨before, known, rfl⟩ := Option.map_eq_some_iff.mp (came.symm.trans found)
  exact (attended id before known).after dependable attentive attends known

/-- While a primary with a dependable source listens, no portal fails and no time for an answer runs out; and
once nothing is queued, every portal that has begun and has not closed is in step and waits for nothing. -/
theorem portals_in_step {authority : Authority σ ε} (dependable : authority.Dependable)
    {first exchange : Exchange σ} {past : List (Moment σ)} (opens : first.Opens)
    (run : Run authority Moment.Attends first past exchange) {id : String} {portal : Portal}
    (found : exchange.state.portals.get? id = some portal) :
    portal.phase ≠ .failed ∧
      (∀ action, .work (.expire id action) ∈ exchange.loop.queue → portal.expire action = portal.does []) ∧
      (exchange.loop.queue = [] → portal.started = true → portal.phase ≠ .closed →
        portal.phase = .synced ∧ portal.awaiting = false) := by
  have attended := (attended_of_run dependable opens run).2 id portal found
  refine ⟨attended.working, ?_, ?_⟩
  · intro action queued
    rw [Portal.expire, if_pos (attended.outdated action queued)]
  · intro idle started open'
    have synced : portal.phase = .synced := by
      cases phase : portal.phase with
      | initial => exact absurd (started.symm.trans (attended.fresh phase).1) Bool.noConfusion
      | handshaking =>
        obtain ⟨_, ⟨_, queued⟩ | ⟨_, underWay⟩⟩ := attended.shakes phase
        · rw [idle] at queued
          cases queued
        · exact absurd idle underWay.queue_ne_nil
      | synced => rfl
      | failed => exact absurd phase attended.working
      | closed => exact absurd phase open'
    refine ⟨synced, ?_⟩
    cases waiting : portal.awaiting with
    | false => rfl
    | true =>
      rcases attended.waits waiting with closed | ⟨_, underWay⟩
      · exact absurd closed open'
      · exact absurd idle underWay.queue_ne_nil

/-- A primary that listens and one portal, which announces itself every second and waits for one second. -/
def pair : Exchange Unit :=
  (Exchange.make "t" () [("metis", .make "metis" ⟨1, 1, none⟩ [])]).listen .primary

theorem pair_opens : pair.Opens where
  listening := by decide
  queue := rfl
  timers := rfl
  portals := by
    intro id portal found
    simp only [pair, Exchange.listen, Exchange.make, Fields.get?] at found
    split at found
    · cases found
      exact ⟨"metis", ⟨1, 1, none⟩, [], rfl, by decide, by decide, by rintro _ ⟨⟩⟩
    · cases found

/-- A source whose snapshots are empty. -/
def blank : Authority Unit Empty where
  snapshot := fun _ => .ok .empty
  act := fun _ _ source => (.ok (.object []), source, [])

theorem blank_dependable : blank.Dependable where
  snapshot := fun _ => ⟨.empty, .empty, rfl, rfl⟩
  act := fun _ _ _ => ⟨[], [], rfl, rfl⟩

theorem pair_in_step :
    let exchange := (pair.trace blank [.job, .job, .job, .job, .job, .call "metis" .start]).2
    ∃ portal, exchange.state.portals.get? "metis" = some portal ∧ portal.phase = .synced ∧
      portal.awaiting = false := by
  intro exchange
  have attends : ∀ moment ∈ (pair.trace blank [.job, .job, .job, .job, .job, .call "metis" .start]).1,
      moment.Attends := by
    simp only [Exchange.trace, List.forall_mem_cons]
    exact ⟨trivial, trivial, trivial, trivial, trivial, trivial, nofun⟩
  have idle : exchange.loop.queue = [] := by decide +kernel
  have begun : (exchange.state.portals.get? "metis").map
      (fun portal => (portal.started, decide (portal.phase = .closed))) = some (true, false) := by decide +kernel
  obtain ⟨portal, found, same⟩ := Option.map_eq_some_iff.mp begun
  obtain ⟨started, open'⟩ := Prod.mk.inj same
  have inStep := portals_in_step blank_dependable pair_opens (Run.of_trace attends) found
  exact ⟨portal, found, inStep.2.2 idle started (of_decide_eq_false open')⟩

/-- A source whose snapshots hold bytes that are no text. -/
def garbled : Authority Unit Empty where
  snapshot := fun _ => .ok ⟨[("x", .bytes [0xFF])], [], [], []⟩
  act := fun _ _ source => (.ok (.object []), source, [])

/-- The portal begins, all that is queued runs, and a second passes. -/
def pairWaits : List (Move Unit) :=
  [.job, .job, .turn 1, .job, .job, .job, .job, .call "metis" .start]

/-- It is not enough that snapshots are at hand: with one that cannot be sent, a portal fails. -/
theorem garbled_fails :
    pair.Opens ∧ (∀ source, ∃ snapshot, garbled.snapshot source = .ok snapshot) ∧
      (∀ portal payload source, ∃ histories, (garbled.act portal payload source).1 = .ok (.object histories) ∧
        Schema.dictionary (Schema.list Schema.anyObject) (.object histories) = .valid [] ∧
        Value.isJson (.object histories) = true) ∧
      Run garbled Moment.Attends pair (pair.trace garbled pairWaits).1 (pair.trace garbled pairWaits).2 ∧
      ((pair.trace garbled pairWaits).2.portal? "metis").map Portal.phase = some .failed := by
  refine ⟨pair_opens, fun _ => ⟨_, rfl⟩, fun _ _ _ => ⟨[], rfl, rfl, rfl⟩, Run.of_trace ?_, ?_⟩
  · simp only [pairWaits, Exchange.trace, List.forall_mem_cons]
    refine ⟨trivial, trivial, ?_, trivial, trivial, trivial, trivial, trivial, nofun⟩
    simp only [Moment.Attends]
    decide +kernel
  · decide +kernel

end Workbench
