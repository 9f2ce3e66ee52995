import Workbench.Proofs.Sync.LifeCycle

namespace Workbench.Portal

/-- What happens around a portal for whose handshake others wait: something happens to the portal, a caller
begins to wait, or one who waits goes on. -/
inductive Passing where
  | happens (stimulus : Stimulus)
  | waits (caller : Nat)
  | wakes (caller : Nat)

/-- A portal, those who wait for its handshake to end, and what the others have got who waited. -/
structure Vigil where
  portal : Portal
  waiting : List Nat
  returned : List (Nat × Except SyncTimeout Unit)

namespace Vigil

/-- Who begins to wait when there is nothing to wait for returns at once. Who waits goes on when the handshake
has ended, perhaps much later, and gets what the portal has to say then. -/
def pass (vigil : Vigil) : Passing → Vigil
  | .happens stimulus => { vigil with portal := (vigil.portal.react stimulus).portal }
  | .waits caller => match vigil.portal.synced? with
    | none => { vigil with waiting := vigil.waiting ++ [caller] }
    | some result => { vigil with returned := vigil.returned ++ [(caller, result)] }
  | .wakes caller =>
    if caller ∈ vigil.waiting then match vigil.portal.synced? with
      | none => vigil
      | some result =>
        { vigil with waiting := vigil.waiting.erase caller, returned := vigil.returned ++ [(caller, result)] }
    else vigil

/-- The vigil for a new portal after all that has happened, the latest first. -/
def after (portal : Portal) : List Passing → Vigil
  | [] => ⟨portal, [], []⟩
  | passing :: earlier => (after portal earlier).pass passing

end Vigil

/-- Whether a portal has failed and has been closed since. -/
def IsBuried (portal : Portal) : Prop :=
  portal.phase = .closed ∧ portal.failure.isSome = true

theorem Sound.synced?_eq_ok {portal : Portal} (sound : portal.Sound) (passes : portal.synced? = some (.ok ())) :
    portal.snapshot.isSome = true ∨ portal.IsBuried := by
  unfold synced? at passes
  split at passes
  · rename_i settled
    rcases sound.settled.mp settled with copy | fault
    · exact Or.inl copy
    · rcases sound.faulted fault with failed | closed
      · obtain ⟨timeout, same⟩ := Option.isSome_iff_exists.mp fault
        rw [failed, same] at passes
        cases passes
      · exact Or.inr ⟨closed, fault⟩
  · cases passes

namespace Reacts

variable {portal : Portal} {stimulus : Stimulus} {outcome : PortalOutcome}

theorem isBuried (reacts : Reacts portal stimulus outcome) (sound : portal.Sound) (buried : portal.IsBuried) :
    outcome.portal.IsBuried :=
  ⟨reacts.closed_of_closed buried.1, (reacts.isSome_failure sound).mpr (Or.inr buried.2)⟩

/-- What a portal holds it keeps until it is replaced by something later. -/
theorem keeps (reacts : Reacts portal stimulus outcome) (sound : portal.Sound)
    (holds : portal.snapshot.isSome = true ∨ portal.IsBuried) :
    outcome.portal.snapshot.isSome = true ∨ outcome.portal.IsBuried :=
  holds.imp (fun copy => (reacts.isSome_snapshot sound).mpr (Or.inr copy)) (reacts.isBuried sound)

/-- Only a call closes a portal. -/
theorem closes (reacts : Reacts portal stimulus outcome) (opened : portal.phase ≠ .closed)
    (closed : outcome.portal.phase = .closed) : stimulus = .call .close := by
  cases reacts with
  | closed => rfl
  | started | adopted | gaveUp => cases closed
  | closedAgain same => exact absurd same opened
  | _ => exact absurd closed opened

/-- A portal that is closed does not change any more. -/
theorem frozen (reacts : Reacts portal stimulus outcome) (closed : portal.phase = .closed)
    (unarmed : portal.alarm = none) : outcome.portal = portal := by
  cases reacts with
  | alreadyStarted | closedAgain | cannotResync | posted | undecodable | cannotAct | deaf | dropped | passed | rested
  | outdated | alreadyAwaiting => rfl
  | adopted _ _ _ wanted | unreadable _ _ _ wanted =>
    rcases phase_of_wants wanted with phase | phase <;> cases closed.symm.trans phase
  | started phase | resynced phase | badPayload _ _ _ phase | asked _ _ phase | askedFor _ _ _ phase | received _ _ _ phase
  | served _ _ _ phase => cases closed.symm.trans phase
  | gaveUp _ _ phase | announced _ _ _ phase => cases closed.symm.trans phase
  | closed opened => exact absurd closed opened
  | needless _ armed | expired _ armed => cases unarmed.symm.trans armed

end Reacts

theorem Sound.unarmed_of_closed {portal : Portal} (sound : portal.Sound) (closed : portal.phase = .closed) :
    portal.alarm = none := by
  by_contra armed
  have synced := (sound.armed (Option.isSome_iff_ne_none.mpr armed)).2
  cases closed.symm.trans synced

variable (name : String) (patience : Patience) (historyKeys : List String)

theorem Vigil.pass_cases (vigil : Vigil) (passing : Passing) :
    (∃ stimulus, (vigil.pass passing).portal = (vigil.portal.react stimulus).portal ∧
        (vigil.pass passing).returned = vigil.returned) ∨
      (vigil.pass passing).portal = vigil.portal ∧ ((vigil.pass passing).returned = vigil.returned ∨
        ∃ caller result, vigil.portal.synced? = some result ∧
          (vigil.pass passing).returned = vigil.returned ++ [(caller, result)]) := by
  cases passing with
  | happens stimulus => exact Or.inl ⟨stimulus, rfl, rfl⟩
  | waits caller =>
    right
    rw [pass]
    cases told : vigil.portal.synced? with
    | none => exact ⟨rfl, Or.inl rfl⟩
    | some result => exact ⟨rfl, Or.inr ⟨caller, result, rfl, rfl⟩⟩
  | wakes caller =>
    right
    rw [pass]
    by_cases waiting : caller ∈ vigil.waiting
    · rw [if_pos waiting]
      cases told : vigil.portal.synced? with
      | none => exact ⟨rfl, Or.inl rfl⟩
      | some result => exact ⟨rfl, Or.inr ⟨caller, result, rfl, rfl⟩⟩
    · rw [if_neg waiting]
      exact ⟨rfl, Or.inl rfl⟩

theorem Vigil.sound_after (passings : List Passing) :
    (Vigil.after (make name patience historyKeys) passings).portal.Sound := by
  induction passings with
  | nil => exact sound_make name patience historyKeys
  | cons passing earlier ih =>
    rw [Vigil.after]
    rcases Vigil.pass_cases _ passing with ⟨stimulus, same, _⟩ | ⟨same, _⟩
    · rw [same]
      exact ih.after (Portal.reacts _ stimulus)
    · rw [same]
      exact ih

/-- Whoever has waited and has got no fault has waited for a portal that has a snapshot or has been buried. -/
theorem Vigil.holds_of_returned (passings : List Passing) {caller : Nat}
    (passed : (caller, .ok ()) ∈ (Vigil.after (make name patience historyKeys) passings).returned) :
    (Vigil.after (make name patience historyKeys) passings).portal.snapshot.isSome = true ∨
      (Vigil.after (make name patience historyKeys) passings).portal.IsBuried := by
  induction passings with
  | nil => cases passed
  | cons passing earlier ih =>
    have sound := Vigil.sound_after name patience historyKeys earlier
    rw [Vigil.after] at passed ⊢
    rcases Vigil.pass_cases _ passing with ⟨stimulus, same, kept⟩ | ⟨same, kept | ⟨other, result, told, added⟩⟩
    · rw [kept] at passed
      rw [same]
      exact (Portal.reacts _ stimulus).keeps sound (ih passed)
    · rw [kept] at passed
      rw [same]
      exact ih passed
    · rw [added, List.mem_append, List.mem_singleton] at passed
      rw [same]
      rcases passed with before | now
      · exact ih before
      · cases now
        exact sound.synced?_eq_ok told

/-- A wait that ends without a fault is in vain if and only if the portal has failed and has been closed since. -/
theorem Vigil.vain_iff_isBuried (passings : List Passing) (caller : Nat)
    (passed : (caller, .ok ()) ∈ (Vigil.after (make name patience historyKeys) passings).returned) :
    (Vigil.after (make name patience historyKeys) passings).portal.snapshot = none ↔
      (Vigil.after (make name patience historyKeys) passings).portal.IsBuried := by
  have sound := Vigil.sound_after name patience historyKeys passings
  constructor
  · intro bare
    refine (Vigil.holds_of_returned name patience historyKeys passings passed).resolve_left ?_
    rw [bare]
    exact Bool.false_ne_true
  · intro buried
    by_contra copy
    have unfailed := sound.apart (Option.isSome_iff_ne_none.mpr copy)
    rw [IsBuried, unfailed] at buried
    exact Bool.false_ne_true buried.2

/-- A caller waits before the handshake, the handshake fails, the portal is closed, and only then the caller goes
on; another one begins to wait after all that. -/
def lateCallers : List Passing :=
  [.waits 1, .wakes 0, .happens (.call .close), .happens (.shake 3), .happens (.shake 0), .happens (.call .start), .waits 0]

theorem Vigil.vain_iff_isBuried_late :
    (Vigil.after (make "metis" {} []) lateCallers).portal.snapshot = none ↔
      (Vigil.after (make "metis" {} []) lateCallers).portal.IsBuried :=
  Vigil.vain_iff_isBuried "metis" {} [] lateCallers 0 (by decide +kernel)

/-- Both callers are told that the portal is in step, which has never had a snapshot. -/
theorem Vigil.late_callers_wait_in_vain :
    (Vigil.after (make "metis" {} []) lateCallers).returned = [(0, .ok ()), (1, .ok ())] ∧
      (Vigil.after (make "metis" {} []) lateCallers).portal.snapshot = none := by
  decide +kernel

/-- Whether nobody is left waiting for a portal: neither for its handshake nor for the answer to an action. -/
def IsReleased (portal : Portal) : Prop :=
  portal.settled = true ∧ portal.awaiting = false ∧ (0 < portal.actions → portal.answered = true)

/-- Whether an event is the close of a portal that was not closed before. -/
def Event.Closes (event : Event) : Prop :=
  event.stimulus = .call .close ∧ event.portal.phase ≠ .closed

theorem Event.after_of_closes {event : Event} (closes : event.Closes) :
    event.after = { event.portal with phase := .closed, shaking := false, alarm := none } := by
  obtain ⟨portal, stimulus⟩ := event
  obtain ⟨rfl, opened⟩ := closes
  simp only [after, outcome, react, obey, close, if_neg opened, does]

theorem sound_of_mem_life {stimuli : List Stimulus} {event : Event}
    (member : event ∈ (make name patience historyKeys).life stimuli) : event.portal.Sound := by
  induction stimuli with
  | nil => cases member
  | cons stimulus earlier ih =>
    rcases List.mem_cons.mp member with rfl | member
    · exact Portal.sound_after name patience historyKeys earlier
    · exact ih member

theorem closed_of_closes {first : Portal} {stimuli : List Stimulus} {event : Event} (member : event ∈ first.life stimuli)
    (closes : event.Closes) : (first.after stimuli).phase = .closed := by
  induction stimuli with
  | nil => cases member
  | cons stimulus earlier ih =>
    rcases List.mem_cons.mp member with rfl | member
    · have closed := congrArg Portal.phase (Event.after_of_closes closes)
      exact closed
    · exact (Portal.reacts _ stimulus).closed_of_closed (ih member)

/-- Nothing that happens to a portal once it is closed changes it. -/
theorem after_append_of_closed {stimuli : List Stimulus}
    (closed : ((make name patience historyKeys).after stimuli).phase = .closed) (later : List Stimulus) :
    (make name patience historyKeys).after (later ++ stimuli) = (make name patience historyKeys).after stimuli := by
  induction later with
  | nil => rfl
  | cons stimulus earlier ih =>
    rw [List.cons_append, Portal.after, ih]
    exact (Portal.reacts _ stimulus).frozen closed
      ((Portal.sound_after name patience historyKeys stimuli).unarmed_of_closed closed)

/-- A portal that is closed was closed once, and is as that has left it. -/
theorem closed_once {stimuli : List Stimulus}
    (closed : ((make name patience historyKeys).after stimuli).phase = .closed) :
    ∃ event ∈ (make name patience historyKeys).life stimuli, event.Closes ∧
      (make name patience historyKeys).after stimuli = event.after ∧
      ∀ other ∈ (make name patience historyKeys).life stimuli, other.Closes → other = event := by
  induction stimuli with
  | nil => cases closed
  | cons stimulus earlier ih =>
    have sound := Portal.sound_after name patience historyKeys earlier
    have reacts := Portal.reacts ((make name patience historyKeys).after earlier) stimulus
    -- Either the portal was closed already and nothing changes, or this is the event that closes it.
    by_cases before : ((make name patience historyKeys).after earlier).phase = .closed
    · obtain ⟨event, member, closes, same, once⟩ := ih before
      have still := reacts.frozen before (sound.unarmed_of_closed before)
      refine ⟨event, List.mem_cons_of_mem _ member, closes, still.trans same, ?_⟩
      intro other among also
      rcases List.mem_cons.mp among with rfl | among
      · exact absurd before also.2
      · exact once other among also
    · refine ⟨⟨_, stimulus⟩, List.mem_cons_self, ⟨reacts.closes before closed, before⟩, rfl, ?_⟩
      intro other among also
      rcases List.mem_cons.mp among with rfl | among
      · rfl
      · exact absurd (closed_of_closes among also) before

/-- A portal that has begun and is not closed settles when its handshake ends. -/
theorem Sound.settled_iff {portal : Portal} (sound : portal.Sound) (started : portal.started = true)
    (opened : portal.phase ≠ .closed) : portal.settled = true ↔ portal.phase ≠ .handshaking := by
  rw [sound.settled]
  constructor
  · rintro (copy | fault) phase
    · simpa [phase] using sound.copied copy
    · simpa [phase] using sound.faulted fault
  · intro ended
    cases phase : portal.phase with
    | initial => exact absurd phase (sound.begun started)
    | handshaking => exact absurd phase ended
    | synced => exact Or.inl (sound.synced phase)
    | failed => exact Or.inr (sound.failed phase)
    | closed => exact absurd phase opened

theorem Sound.isReleased_of_failed {portal : Portal} (sound : portal.Sound) (failed : portal.phase = .failed) :
    portal.IsReleased := by
  have idle : portal.awaiting = false := by
    by_contra waiting
    have copy := sound.busy (eq_true_of_ne_false waiting)
    simpa [failed] using sound.copied copy
  exact ⟨sound.settled.mpr (Or.inr (sound.failed failed)), idle, fun asked => sound.asked asked idle⟩

/-- The end of a portal releases all who wait for it if and only if it was closed neither in the middle of its
handshake nor while a request was out. -/
theorem isReleased_iff (stimuli : List Stimulus)
    (started : ((make name patience historyKeys).after stimuli).started = true)
    (ended : ((make name patience historyKeys).after stimuli).phase = .failed ∨
      ((make name patience historyKeys).after stimuli).phase = .closed) :
    ((make name patience historyKeys).after stimuli).IsReleased ↔
      ∀ event ∈ (make name patience historyKeys).life stimuli, event.Closes →
        event.portal.phase ≠ .handshaking ∧ event.portal.awaiting = false := by
  rcases ended with failed | closed
  · refine iff_of_true ((Portal.sound_after name patience historyKeys stimuli).isReleased_of_failed failed) ?_
    intro event member closes
    cases failed.symm.trans (closed_of_closes member closes)
  · obtain ⟨event, member, closes, same, once⟩ := closed_once name patience historyKeys closed
    have sound := sound_of_mem_life name patience historyKeys member
    rw [same, Event.after_of_closes closes] at started ⊢
    have settled := sound.settled_iff started closes.2
    constructor
    · rintro ⟨released, idle, _⟩ other among also
      cases once other among also
      exact ⟨settled.mp released, idle⟩
    · intro proper
      obtain ⟨phase, idle⟩ := proper event member closes
      exact ⟨settled.mpr phase, idle, fun asked => sound.asked asked idle⟩

/-- An empty snapshot for whoever listens. -/
def emptyUpdate : Value :=
  .object [("type", .text "STATE_UPDATE"), ("payload", .object [])]

/-- An answer to whoever waits for one. -/
def emptyResponse : Value :=
  .object [("type", .text "ACTION_RESPONSE")]

/-- A portal that asks once and is closed with its answer. -/
def answeredLife : List Stimulus :=
  [.call .close, .hear emptyResponse, .call (.act (.text "step")), .hear emptyUpdate, .call .start]

theorem isReleased_iff_answered :
    ((make "metis" {} []).after answeredLife).IsReleased ↔
      ∀ event ∈ (make "metis" {} []).life answeredLife, event.Closes →
        event.portal.phase ≠ .handshaking ∧ event.portal.awaiting = false :=
  isReleased_iff "metis" {} [] answeredLife (by decide +kernel) (by decide +kernel)

/-- A portal that is closed in the middle of its handshake. -/
def hastyLife : List Stimulus :=
  [.call .close, .call .start]

/-- A portal that asks once and is closed before it has its answer. -/
def unansweredLife : List Stimulus :=
  [.call .close, .call (.act (.text "step")), .hear emptyUpdate, .call .start]

/-- Who waits for the handshake of the one, or for the answer to the other, waits for ever. -/
theorem close_leaves_waiting :
    (((make "metis" {} []).after hastyLife).started = true ∧ ((make "metis" {} []).after hastyLife).phase = .closed ∧
      ∀ later, ((make "metis" {} []).after (later ++ hastyLife)).settled = false) ∧
    ((make "metis" {} []).after unansweredLife).started = true ∧
      ((make "metis" {} []).after unansweredLife).phase = .closed ∧
      ((make "metis" {} []).after unansweredLife).actions = 1 ∧
      ∀ later, ((make "metis" {} []).after (later ++ unansweredLife)).awaiting = true ∧
        ((make "metis" {} []).after (later ++ unansweredLife)).answered = false := by
  have hasty : ((make "metis" {} []).after hastyLife).phase = .closed := by decide +kernel
  have unanswered : ((make "metis" {} []).after unansweredLife).phase = .closed := by decide +kernel
  refine ⟨⟨by decide +kernel, hasty, fun later => ?_⟩, by decide +kernel, unanswered, by decide +kernel, fun later => ?_⟩
  · rw [after_append_of_closed "metis" {} [] hasty]
    decide +kernel
  · rw [after_append_of_closed "metis" {} [] unanswered]
    decide +kernel

end Workbench.Portal
