import Workbench.Proofs.Sync.Life

namespace Workbench

/-- The ways from one phase of a portal to the next. -/
inductive PortalPhase.Leads : PortalPhase → PortalPhase → Prop
  | begins : Leads .initial .handshaking
  | syncs : Leads .handshaking .synced
  | fails : Leads .handshaking .failed
  | closes {phase : PortalPhase} : phase ≠ .closed → Leads phase .closed

def Message.isReady : Message → Bool
  | .ready _ => true
  | _ => false

def Message.isClosing : Message → Bool
  | .closing _ => true
  | _ => false

def Drawing.isAll : Drawing → Bool
  | .all _ => true
  | _ => false

/-- Whether a drawing tells that a handshake has come to nothing. -/
def Drawing.TellsTimeout (drawing : Drawing) : Prop :=
  ∃ fault : SyncTimeout, drawing = .error fault.message

/-- An action that is not answered in time is reported in other words than a handshake that fails. -/
theorem Drawing.not_tellsTimeout (text : String) :
    ¬ (Drawing.error ("No response from the primary after " ++ text)).TellsTimeout := by
  rintro ⟨fault, same⟩
  have texts := congrArg (fun text : String => text.toList.head?) (Drawing.error.inj same)
  simp [SyncTimeout.message] at texts

/-- Among messages of which only the last can be a farewell, there is one farewell at most. -/
theorem Message.countP_isClosing {messages : List Message} (last : ∀ asker, .closing asker ∉ messages.dropLast) :
    messages.countP isClosing ≤ 1 := by
  rcases List.eq_nil_or_concat messages with rfl | ⟨earlier, final, rfl⟩
  · exact Nat.zero_le 1
  · rw [List.concat_eq_append, List.dropLast_concat] at last
    have none : earlier.countP isClosing = 0 := by
      rw [List.countP_eq_zero]
      intro message member closing
      cases message with
      | closing asker => exact last asker member
      | _ => cases closing
    rw [List.concat_eq_append, List.countP_append, none, Nat.zero_add]
    exact List.countP_le_length

namespace Portal

namespace Event

/-- When the handshake has a turn, if this is what happens. -/
def wake? (event : Event) : Option Rat :=
  match event.stimulus with
  | .shake now => if event.portal.shaking && event.portal.phase = .handshaking then some now else none
  | _ => none

/-- When the handshake had its first turn. -/
def beginning? (past : List Event) : Option Rat :=
  (past.filterMap wake?).getLast?

def isTurn (event : Event) : Bool :=
  match event.stimulus with
  | .shake _ => true
  | _ => false

/-- Whether a portal asks for a fresh snapshot and is not refused. -/
def isResync (event : Event) : Bool :=
  match event.stimulus with
  | .call .resync => event.outcome.fault.isNone
  | _ => false

/-- Whether an event leaves the portal as it is and nobody hears or sees of it. -/
def IsIdle (event : Event) : Prop :=
  event.after = event.portal ∧ event.sends = [] ∧ event.draws = []

theorem beginning?_cons (event : Event) (past : List Event) :
    beginning? (event :: past) = (beginning? past).or event.wake? := by
  unfold beginning?
  cases woken : event.wake? with
  | none => rw [List.filterMap_cons_none woken, Option.or_none]
  | some now =>
    rw [List.filterMap_cons_some woken, List.getLast?_cons]
    cases (past.filterMap wake?).getLast? <;> rfl

theorem isResync_resync (portal : Portal) : isResync ⟨portal, .call .resync⟩ = decide (portal.phase = .synced) := by
  by_cases synced : portal.phase = .synced <;>
    simp [isResync, outcome, react, obey, requestResync, refuses, does, synced]

end Event

/-- What a portal has to show for its life. -/
structure LifeCycle (portal : Portal) (past : List Event) : Prop where
  /-- The phase changes by the ways there are and by no other. -/
  leads : ∀ event ∈ past, event.after.phase = event.portal.phase ∨ event.portal.phase.Leads event.after.phase
  /-- Who holds a snapshot has been in step, and who holds a fault has failed. -/
  synced : portal.snapshot.isSome = true ↔ portal.Was past .synced
  failed : portal.failure.isSome = true ↔ portal.Was past .failed
  apart : portal.snapshot = none ∨ portal.failure = none
  /-- The handshake fails at a turn, and not before the time since its first turn has run out. -/
  patient : ∀ event ∈ past, event.portal.phase ≠ .failed → event.after.phase = .failed →
    ∃ now start, event.stimulus = .shake now ∧ Event.beginning? past = some start ∧
      start + portal.patience.timeout ≤ now
  /-- Of two drawings one at most tells that the handshake has failed. -/
  told : (Event.shown past).Pairwise fun earlier later => ¬ (earlier.TellsTimeout ∧ later.TellsTimeout)
  /-- The attempts are the announcements at turns of the handshake. -/
  attempts : portal.attempts = (Event.sent (past.filter Event.isTurn)).countP Message.isReady
  /-- Only a turn of the handshake and a call for a fresh snapshot announce the portal. -/
  announced : ∀ event ∈ past, ∀ asker, .ready asker ∈ event.sends → event.isTurn = true ∨ event.isResync = true
  /-- A portal that has failed or is closed does not announce itself. -/
  silent : ∀ event ∈ past, event.portal.phase = .failed ∨ event.portal.phase = .closed →
    ∀ asker, .ready asker ∉ event.sends
  parted : (Event.sent past).countP Message.isClosing ≤ 1
  /-- Nothing is posted after the farewell. -/
  last : ∀ earlier asker later, Event.sent past = earlier ++ .closing asker :: later → later = []
  /-- The first snapshot is drawn, and then at most one for each call for a fresh one. -/
  drawn : (Event.shown past).countP Drawing.isAll ≤ 1 + past.countP Event.isResync
  /-- Nothing comes of a call that is refused, of what is no envelope, and of what comes too late. -/
  refused : ∀ event ∈ past, event.outcome.fault.isSome = true → (∀ data, event.stimulus ≠ .hear data) → event.IsIdle
  malformed : ∀ event ∈ past, ∀ data fault, event.stimulus = .hear data → Message.parse data = .error fault →
    event.IsIdle
  deaf : ∀ event ∈ past, ∀ data, event.stimulus = .hear data →
    event.portal.phase = .failed ∨ event.portal.phase = .closed → event.IsIdle

namespace Reacts

variable {portal : Portal} {stimulus : Stimulus} {outcome : PortalOutcome}

theorem leads (reacts : Reacts portal stimulus outcome) :
    outcome.portal.phase = portal.phase ∨ portal.phase.Leads outcome.portal.phase := by
  cases reacts with
  | started fresh =>
    rw [fresh]
    exact Or.inr .begins
  | closed opened => exact Or.inr (.closes opened)
  | adopted _ _ _ wanted =>
    rcases phase_of_wants wanted with phase | phase
    · rw [phase]
      exact Or.inr .syncs
    · exact Or.inl phase.symm
  | gaveUp _ _ phase =>
    rw [phase]
    exact Or.inr .fails
  | _ => exact Or.inl rfl

theorem closed_of_closed (reacts : Reacts portal stimulus outcome) (closed : portal.phase = .closed) :
    outcome.portal.phase = .closed := by
  rcases reacts.leads with same | way
  · exact same.trans closed
  · rw [closed] at way
    generalize outcome.portal.phase = next at way
    cases way with
    | closes opened => exact absurd rfl opened

theorem isSome_snapshot (reacts : Reacts portal stimulus outcome) (sound : portal.Sound) :
    outcome.portal.snapshot.isSome = true ↔ outcome.portal.phase = .synced ∨ portal.snapshot.isSome = true := by
  cases reacts with
  | started | closed | gaveUp => exact (or_iff_right nofun).symm
  | adopted => simp [does]
  | received _ histories | served _ histories =>
    simp only [does, isSome_merged]
    exact ⟨Or.inr, fun either => either.elim sound.synced id⟩
  | _ => exact ⟨Or.inr, fun either => either.elim sound.synced id⟩

theorem isSome_failure (reacts : Reacts portal stimulus outcome) (sound : portal.Sound) :
    outcome.portal.failure.isSome = true ↔ outcome.portal.phase = .failed ∨ portal.failure.isSome = true := by
  cases reacts with
  | started | closed | adopted => exact (or_iff_right nofun).symm
  | gaveUp => simp [giveUp, does]
  | _ => exact ⟨Or.inr, fun either => either.elim sound.failed id⟩

theorem unsettled (reacts : Reacts portal stimulus outcome)
    (still : outcome.portal.phase = .initial ∨ outcome.portal.phase = .handshaking) :
    portal.phase = .initial ∨ portal.phase = .handshaking := by
  rcases reacts.leads with same | way
  · rwa [same] at still
  · generalize outcome.portal.phase = next at way still
    generalize portal.phase = phase at way
    cases way with
    | begins => exact Or.inl rfl
    | syncs | fails => exact Or.inr rfl
    | closes => simp at still

/-- While the handshake goes on, its first turn sets the time of its end. -/
theorem deadline (reacts : Reacts portal stimulus outcome)
    (still : outcome.portal.phase = .initial ∨ outcome.portal.phase = .handshaking) :
    outcome.portal.deadline =
      match Event.wake? ⟨portal, stimulus⟩ with
      | none => portal.deadline
      | some now => some (portal.deadline.getD (now + portal.patience.timeout)) := by
  cases reacts with
  | rested now idle =>
    have asleep : Event.wake? ⟨portal, .shake now⟩ = none := by
      simp only [Event.wake?]
      refine if_neg ?_
      simp only [Bool.and_eq_true, decide_eq_true_eq]
      rintro ⟨shaking, phase⟩
      rcases idle with still | other
      · exact Bool.false_ne_true (still.symm.trans shaking)
      · exact other phase
    rw [asleep]
    rfl
  | announced now deadline shaking phase same =>
    have woken : Event.wake? ⟨portal, .shake now⟩ = some now := by simp [Event.wake?, shaking, phase]
    rw [woken, ← same]
    rfl
  | gaveUp => simp [giveUp, does] at still
  | _ => rfl

/-- A handshake fails at a turn whose time is up. -/
theorem fails (reacts : Reacts portal stimulus outcome) (before : portal.phase ≠ .failed)
    (after : outcome.portal.phase = .failed) :
    ∃ now, stimulus = .shake now ∧ Event.wake? ⟨portal, stimulus⟩ = some now ∧ portal.phase = .handshaking ∧
      portal.deadline.getD (now + portal.patience.timeout) ≤ now := by
  cases reacts with
  | gaveUp now shaking phase late =>
    exact ⟨now, rfl, by simp [Event.wake?, shaking, phase], phase, sub_nonpos.mp late⟩
  | started | closed | adopted => cases after
  | _ => exact absurd after before

/-- What a portal draws when its handshake fails, it draws then and at no other time. -/
theorem tells (reacts : Reacts portal stimulus outcome) {drawing : Drawing} (member : .draw drawing ∈ outcome.deeds)
    (tells : drawing.TellsTimeout) :
    portal.phase = .handshaking ∧ outcome.portal.phase = .failed ∧
      outcome.deeds.filterMap PortalDeed.drawing? = [drawing] := by
  obtain ⟨fault, rfl⟩ := tells
  cases reacts with
  | gaveUp now shaking phase late =>
    simp only [giveUp, does, List.mem_cons, PortalDeed.draw.injEq, List.not_mem_nil, or_false, reduceCtorEq,
      false_or] at member
    rw [member]
    exact ⟨phase, rfl, rfl⟩
  | expired =>
    simp only [does, List.mem_cons, PortalDeed.draw.injEq, List.not_mem_nil, or_false, reduceCtorEq, false_or,
      String.append_assoc] at member
    exact absurd ⟨fault, member.symm⟩ (Drawing.not_tellsTimeout _)
  | _ => simp [does, refuses, ready, drawn, farewell] at member

theorem attempts (reacts : Reacts portal stimulus outcome) :
    outcome.portal.attempts = portal.attempts +
      if Event.isTurn ⟨portal, stimulus⟩ then (outcome.deeds.filterMap PortalDeed.message?).countP Message.isReady
      else 0 := by
  cases reacts <;> simp [Event.isTurn, does, refuses, giveUp, ready, List.filterMap_cons, PortalDeed.message?,
    Message.isReady]

/-- When a portal announces itself. -/
theorem announces (reacts : Reacts portal stimulus outcome) (made : stimulus.IsOperation) {asker : Option String}
    (member : .send (.ready asker) ∈ outcome.deeds) :
    (∃ now, stimulus = .shake now ∧ portal.phase = .handshaking) ∨
      stimulus = .call .resync ∧ outcome.fault = none ∧ portal.phase = .synced := by
  cases reacts with
  | posted => exact absurd made Stimulus.IsOperation.unposted
  | resynced synced => exact Or.inr ⟨rfl, rfl, synced⟩
  | announced now _ _ phase => exact Or.inl ⟨now, rfl, phase⟩
  | _ => simp [does, refuses, giveUp, drawn, farewell] at member

/-- A portal takes its leave when it closes, and says nothing else. -/
theorem parts (reacts : Reacts portal stimulus outcome) (made : stimulus.IsOperation) {asker : Option String}
    (member : .closing asker ∈ outcome.deeds.filterMap PortalDeed.message?) :
    portal.phase ≠ .closed ∧ outcome.portal.phase = .closed ∧
      outcome.deeds.filterMap PortalDeed.message? = [.closing asker] := by
  cases reacts with
  | posted => exact absurd made Stimulus.IsOperation.unposted
  | closed opened =>
    simp only [does, message?_farewell] at member ⊢
    by_cases fresh : portal.phase = .initial
    · rw [if_pos fresh] at member
      cases member
    · rw [if_neg fresh, List.mem_singleton] at member
      exact ⟨opened, trivial, by rw [if_neg fresh, member]⟩
  | received | served => simp [does, message?_drawn, List.filterMap_cons, PortalDeed.message?] at member
  | _ => simp [does, refuses, giveUp, ready, List.filterMap_cons, PortalDeed.message?] at member

/-- A portal that is closed posts nothing. -/
theorem posts_nothing (reacts : Reacts portal stimulus outcome) (made : stimulus.IsOperation)
    (closed : portal.phase = .closed) : outcome.deeds.filterMap PortalDeed.message? = [] := by
  cases reacts with
  | posted => exact absurd made Stimulus.IsOperation.unposted
  | adopted _ _ _ wanted => simp [wants, closed] at wanted
  | unreadable _ _ _ wanted => simp [wants, closed] at wanted
  | _ => simp_all [does, refuses, PortalDeed.message?]

end Reacts

/-- How often a portal may still draw a snapshot without another call for one. -/
def due (portal : Portal) : Nat :=
  (match portal.phase with
    | .initial | .handshaking => 1
    | .synced | .failed | .closed => 0) + portal.resync.toNat

/-- A portal that waits for a snapshot is due one. -/
theorem due_of_wants {portal : Portal} (wanted : portal.wants = true) : 1 ≤ portal.due := by
  simp only [wants, Bool.or_eq_true, decide_eq_true_eq, Bool.and_eq_true] at wanted
  rcases wanted with phase | ⟨_, asked⟩
  · simp [due, phase]
  · simp [due, asked]

theorem isAll_drawn (portal : Portal) (histories : Fields (List (Fields Value))) :
    ((portal.drawn histories).filterMap PortalDeed.drawing?).countP Drawing.isAll = 0 := by
  rw [drawing?_drawn, List.countP_eq_zero]
  intro drawing member
  obtain ⟨history, _, rfl⟩ := List.mem_map.mp member
  exact Bool.false_ne_true

/-- A snapshot is drawn only if it is due, and only a call for a fresh one makes one due. -/
theorem Reacts.due {portal : Portal} {stimulus : Stimulus} {outcome : PortalOutcome}
    (reacts : Reacts portal stimulus outcome) (other : stimulus ≠ .call .resync) :
    (outcome.deeds.filterMap PortalDeed.drawing?).countP Drawing.isAll + outcome.portal.due ≤ portal.due := by
  cases reacts with
  | cannotResync | resynced => exact absurd rfl other
  | started fresh => simp [does, Portal.due, fresh, List.filterMap_cons, PortalDeed.drawing?]
  | closed =>
    rw [does, drawing?_farewell, List.countP_nil, Nat.zero_add]
    exact Nat.add_le_add_right (Nat.zero_le _) _
  | adopted _ _ _ wanted => exact due_of_wants wanted
  | unreadable =>
    rw [refuses, List.filterMap_nil, List.countP_nil, Nat.zero_add]
    exact Nat.add_le_add_left (Nat.zero_le _) _
  | received _ histories =>
    rw [does, isAll_drawn, Nat.zero_add]
    exact le_rfl
  | served _ histories =>
    rw [does, List.filterMap_append, List.countP_append, isAll_drawn, Nat.zero_add]
    exact (Nat.zero_add _).le
  | gaveUp _ _ phase =>
    rw [Portal.due, Portal.due, phase]
    exact (Nat.zero_add _).le.trans (Nat.add_le_add_right (Nat.zero_le _) _)
  | _ => exact (Nat.zero_add _).le

theorem Event.due (event : Event) :
    event.draws.countP Drawing.isAll + event.after.due ≤ event.portal.due + if event.isResync then 1 else 0 := by
  obtain ⟨portal, stimulus⟩ := event
  by_cases asked : stimulus = .call .resync
  · subst asked
    rw [isResync_resync]
    by_cases synced : portal.phase = .synced
    · simp [draws, Event.after, outcome, react, obey, requestResync, does, ready, Portal.due, synced,
        List.filterMap_cons, PortalDeed.drawing?]
    · simp [draws, Event.after, outcome, react, obey, requestResync, refuses, synced]
  · exact ((Event.reacts ⟨portal, stimulus⟩).due asked).trans (Nat.le_add_right _ _)

namespace Reacts

variable {portal : Portal} {stimulus : Stimulus} {outcome : PortalOutcome}

/-- A call that is refused does nothing. -/
theorem refused (reacts : Reacts portal stimulus outcome) (made : stimulus.IsOperation)
    (fault : outcome.fault.isSome = true) (unheard : ∀ data, stimulus ≠ .hear data) :
    outcome.portal = portal ∧ outcome.deeds = [] := by
  cases reacts with
  | undecodable => exact absurd made Stimulus.IsOperation.unposted
  | badPayload payload _ _ _ _ refused =>
    obtain ⟨text, rfl⟩ := made.text
    cases refused
  | unreadable data => exact absurd rfl (unheard data)
  | alreadyStarted | cannotResync | cannotAct | alreadyAwaiting => exact ⟨rfl, rfl⟩
  | _ => cases fault

/-- What is no envelope is dropped. -/
theorem drops {data : Value} {fault : MessageFault} (reacts : Reacts portal (.hear data) outcome)
    (malformed : Message.parse data = .error fault) :
    outcome.portal = portal ∧ outcome.deeds.filterMap PortalDeed.message? = [] ∧
      outcome.deeds.filterMap PortalDeed.drawing? = [] := by
  cases reacts with
  | deaf | dropped => exact ⟨rfl, rfl, rfl⟩
  | passed _ message _ _ read => cases malformed.symm.trans read
  | adopted _ _ _ _ read | unreadable _ _ _ _ read | received _ _ _ _ read | served _ _ _ _ read =>
    cases malformed.symm.trans read

/-- A portal that has failed or is closed hears nothing. -/
theorem ignores {data : Value} (reacts : Reacts portal (.hear data) outcome)
    (ended : portal.phase = .failed ∨ portal.phase = .closed) :
    outcome.portal = portal ∧ outcome.deeds = [] := by
  cases reacts with
  | deaf | passed => exact ⟨rfl, rfl⟩
  | dropped _ _ opened working => exact (ended.elim working opened).elim
  | adopted _ _ _ wanted | unreadable _ _ _ wanted =>
    rcases phase_of_wants wanted with phase | phase <;> simp [phase] at ended
  | received _ _ _ synced | served _ _ _ synced => simp [synced] at ended

end Reacts

theorem was_cons {first : Portal} {stimulus : Stimulus} {earlier : List Stimulus} {phase : PortalPhase} :
    (first.after (stimulus :: earlier)).Was (first.life (stimulus :: earlier)) phase ↔
      (first.after (stimulus :: earlier)).phase = phase ∨ (first.after earlier).Was (first.life earlier) phase := by
  simp [Was, life]

variable (name : String) (patience : Patience) (historyKeys : List String)

/-- What comes with a phase and stays tells of that phase ever after. -/
theorem holds_iff_was (holds : Portal → Prop) (phase : PortalPhase) {first : Portal} (sound : first.Sound)
    (atFirst : holds first ↔ first.phase = phase)
    (step : ∀ {portal stimulus outcome}, Reacts portal stimulus outcome → portal.Sound →
      (holds outcome.portal ↔ outcome.portal.phase = phase ∨ holds portal))
    (stimuli : List Stimulus) : holds (first.after stimuli) ↔ (first.after stimuli).Was (first.life stimuli) phase := by
  induction stimuli with
  | nil => simpa [Was, Portal.after, life] using atFirst
  | cons stimulus earlier ih =>
    rw [was_cons, ← ih]
    exact step (Portal.reacts _ stimulus) (after_invariant Sound sound Sound.after earlier)

theorem isSome_snapshot_after (stimuli : List Stimulus) :
    ((make name patience historyKeys).after stimuli).snapshot.isSome = true ↔
      ((make name patience historyKeys).after stimuli).Was ((make name patience historyKeys).life stimuli) .synced :=
  holds_iff_was (fun portal => portal.snapshot.isSome = true) .synced (sound_make name patience historyKeys)
    (iff_of_false nofun nofun) Reacts.isSome_snapshot stimuli

theorem isSome_failure_after (stimuli : List Stimulus) :
    ((make name patience historyKeys).after stimuli).failure.isSome = true ↔
      ((make name patience historyKeys).after stimuli).Was ((make name patience historyKeys).life stimuli) .failed :=
  holds_iff_was (fun portal => portal.failure.isSome = true) .failed (sound_make name patience historyKeys)
    (iff_of_false nofun nofun) Reacts.isSome_failure stimuli

/-- Until the handshake has ended, the time of its end is that of its first turn and the timeout. -/
theorem deadline_after (stimuli : List Stimulus)
    (still : ((make name patience historyKeys).after stimuli).phase = .initial ∨
      ((make name patience historyKeys).after stimuli).phase = .handshaking) :
    ((make name patience historyKeys).after stimuli).deadline =
      (Event.beginning? ((make name patience historyKeys).life stimuli)).map (· + patience.timeout) := by
  induction stimuli with
  | nil => rfl
  | cons stimulus earlier ih =>
    have reacts := Portal.reacts ((make name patience historyKeys).after earlier) stimulus
    have told := ih (reacts.unsettled still)
    rw [Portal.after, reacts.deadline still, life, Event.beginning?_cons]
    cases Event.wake? ⟨(make name patience historyKeys).after earlier, stimulus⟩ with
    | none => rw [Option.or_none, told]
    | some now =>
      rw [told, patience_after]
      cases Event.beginning? ((make name patience historyKeys).life earlier) <;> rfl

/-- The first turn of the handshake stays the first, whatever comes later. -/
theorem failed_late (stimuli : List Stimulus) :
    ∀ event ∈ (make name patience historyKeys).life stimuli,
      event.portal.phase ≠ .failed → event.after.phase = .failed →
        ∃ now start, event.stimulus = .shake now ∧
          Event.beginning? ((make name patience historyKeys).life stimuli) = some start ∧
          start + patience.timeout ≤ now := by
  induction stimuli with
  | nil =>
    intro event member
    cases member
  | cons stimulus earlier ih =>
    have reacts := Portal.reacts ((make name patience historyKeys).after earlier) stimulus
    intro event member before after
    rw [life, Event.beginning?_cons]
    rcases List.mem_cons.mp member with rfl | member
    · -- The turn at which the handshake fails is perhaps its first one: then it is its own beginning.
      obtain ⟨now, turn, woken, phase, late⟩ := reacts.fails before after
      rw [deadline_after name patience historyKeys earlier (Or.inr phase), patience_after] at late
      rw [woken]
      cases begun : Event.beginning? ((make name patience historyKeys).life earlier) with
      | none =>
        rw [begun] at late
        exact ⟨now, now, turn, rfl, late⟩
      | some start =>
        rw [begun] at late
        exact ⟨now, start, turn, rfl, late⟩
    · obtain ⟨now, start, turn, begun, late⟩ := ih event member before after
      exact ⟨now, start, turn, by rw [begun, Option.some_or], late⟩

/-- Only a portal that has failed has told so. -/
theorem failure_of_told (stimuli : List Stimulus) :
    ∀ drawing ∈ Event.shown ((make name patience historyKeys).life stimuli), drawing.TellsTimeout →
      ((make name patience historyKeys).after stimuli).failure.isSome = true := by
  induction stimuli with
  | nil =>
    intro drawing member
    cases member
  | cons stimulus earlier ih =>
    intro drawing member tells
    have reacts := Portal.reacts ((make name patience historyKeys).after earlier) stimulus
    refine (reacts.isSome_failure (sound_after name patience historyKeys earlier)).mpr ?_
    rw [life, Event.shown_cons, List.mem_append] at member
    rcases member with before | now
    · exact Or.inr (ih drawing before tells)
    · exact Or.inl (reacts.tells (Event.mem_draws.mp now) tells).2.1

/-- A handshake fails from one phase only, to which a portal that has told so never comes back. -/
theorem told_once (stimuli : List Stimulus) :
    (Event.shown ((make name patience historyKeys).life stimuli)).Pairwise fun earlier later =>
      ¬ (earlier.TellsTimeout ∧ later.TellsTimeout) := by
  induction stimuli with
  | nil => exact .nil
  | cons stimulus earlier ih =>
    have sound := sound_after name patience historyKeys earlier
    have reacts := Portal.reacts ((make name patience historyKeys).after earlier) stimulus
    rw [life, Event.shown_cons, List.pairwise_append]
    refine ⟨ih, ?_, ?_⟩
    · by_cases silent : ∀ drawing ∈ Event.draws ⟨(make name patience historyKeys).after earlier, stimulus⟩,
          ¬ drawing.TellsTimeout
      · exact List.pairwise_of_forall_mem_list fun one member _ _ both => silent one member both.1
      · push Not at silent
        obtain ⟨drawing, member, tells⟩ := silent
        have alone := (reacts.tells (Event.mem_draws.mp member) tells).2.2
        rw [Event.draws, Event.outcome, alone]
        exact List.pairwise_singleton ..
    · intro one before other now both
      have fault := failure_of_told name patience historyKeys earlier one before both.1
      have phase := (reacts.tells (Event.mem_draws.mp now) both.2).1
      have ended := sound.faulted fault
      simp [phase] at ended

theorem attempts_after (stimuli : List Stimulus) :
    ((make name patience historyKeys).after stimuli).attempts =
      (Event.sent (((make name patience historyKeys).life stimuli).filter Event.isTurn)).countP Message.isReady := by
  induction stimuli with
  | nil => rfl
  | cons stimulus earlier ih =>
    rw [Portal.after, (Portal.reacts _ stimulus).attempts, ih, life, List.filter_cons]
    split
    · rw [Event.sent_cons, List.countP_append]
      rfl
    · rfl

/-- What is drawn and what is still due is paid for by the first handshake and by the calls for a fresh snapshot. -/
theorem drawn_after (stimuli : List Stimulus) :
    (Event.shown ((make name patience historyKeys).life stimuli)).countP Drawing.isAll +
        ((make name patience historyKeys).after stimuli).due ≤
      1 + ((make name patience historyKeys).life stimuli).countP Event.isResync := by
  induction stimuli with
  | nil => exact le_rfl
  | cons stimulus earlier ih =>
    have step := Event.due ⟨(make name patience historyKeys).after earlier, stimulus⟩
    rw [life, Event.shown_cons, List.countP_append, List.countP_cons, Portal.after]
    simp only [Event.after, Event.outcome] at step
    omega

/-- A portal that has taken its leave is closed. -/
theorem closed_of_parted (operations : List Operation) (asker : Option String)
    (parted : .closing asker ∈ Event.sent ((make name patience historyKeys).life (operations.map Operation.stimulus))) :
    ((make name patience historyKeys).after (operations.map Operation.stimulus)).phase = .closed := by
  induction operations with
  | nil => cases parted
  | cons operation earlier ih =>
    rw [List.map_cons, life, Event.sent_cons, List.mem_append] at parted
    rcases parted with before | now
    · exact (Portal.reacts _ operation.stimulus).closed_of_closed (ih before)
    · exact ((Portal.reacts _ operation.stimulus).parts ⟨operation, rfl⟩ now).2.1

/-- Only the last message that a portal posts can be its farewell. -/
theorem farewell_last (operations : List Operation) (asker : Option String) :
    .closing asker ∉
      (Event.sent ((make name patience historyKeys).life (operations.map Operation.stimulus))).dropLast := by
  induction operations with
  | nil => exact List.not_mem_nil
  | cons operation earlier ih =>
    intro member
    rw [List.map_cons, life, Event.sent_cons] at member
    have parted := closed_of_parted name patience historyKeys earlier asker
    have reacts := Portal.reacts
      ((make name patience historyKeys).after (earlier.map Operation.stimulus)) operation.stimulus
    -- If the portal had taken its leave before, nothing is added now; else its leave is all that is added.
    rcases List.mem_append.mp (List.mem_of_mem_dropLast member) with before | now
    · have silent := reacts.posts_nothing ⟨operation, rfl⟩ (parted before)
      rw [Event.sends, Event.outcome, silent, List.append_nil] at member
      exact ih member
    · have alone := (reacts.parts ⟨operation, rfl⟩ now).2.2
      have opened := (reacts.parts ⟨operation, rfl⟩ now).1
      rw [Event.sends, Event.outcome, alone, List.dropLast_concat] at member
      exact opened (parted member)

theorem Event.isIdle_of_silent {event : Event} (same : event.after = event.portal) (silent : event.outcome.deeds = []) :
    event.IsIdle :=
  ⟨same, by rw [Event.sends, silent, List.filterMap_nil], by rw [Event.draws, silent, List.filterMap_nil]⟩

theorem idle_of_refused {event : Event} (made : event.stimulus.IsOperation) (fault : event.outcome.fault.isSome = true)
    (unheard : ∀ data, event.stimulus ≠ .hear data) : event.IsIdle := by
  obtain ⟨same, silent⟩ := event.reacts.refused made fault unheard
  exact Event.isIdle_of_silent same silent

theorem idle_of_malformed {event : Event} {data : Value} {fault : MessageFault} (heard : event.stimulus = .hear data)
    (malformed : Message.parse data = .error fault) : event.IsIdle := by
  have reacts := event.reacts
  rw [heard] at reacts
  exact reacts.drops malformed

theorem idle_of_ended {event : Event} {data : Value} (heard : event.stimulus = .hear data)
    (ended : event.portal.phase = .failed ∨ event.portal.phase = .closed) : event.IsIdle := by
  have reacts := event.reacts
  rw [heard] at reacts
  obtain ⟨same, silent⟩ := reacts.ignores ended
  exact Event.isIdle_of_silent same silent

/-- Every portal lives such a life, whatever is done with it and in whatever order. -/
theorem lifeCycle_after (operations : List Operation) :
    LifeCycle ((make name patience historyKeys).after (operations.map Operation.stimulus))
      ((make name patience historyKeys).life (operations.map Operation.stimulus)) := by
  have sound := sound_after name patience historyKeys (operations.map Operation.stimulus)
  have made : ∀ event ∈ (make name patience historyKeys).life (operations.map Operation.stimulus),
      event.stimulus.IsOperation := fun _ => isOperation_of_mem_life
  exact {
    leads := fun event _ => event.reacts.leads
    synced := isSome_snapshot_after ..
    failed := isSome_failure_after ..
    apart := by
      cases copy : Portal.snapshot _ with
      | none => exact Or.inl rfl
      | some snapshot => exact Or.inr (sound.apart (by rw [copy]; rfl))
    patient := by
      rw [patience_after]
      exact failed_late name patience historyKeys _
    told := told_once ..
    attempts := attempts_after ..
    announced := by
      intro event member asker sent
      rcases event.reacts.announces (made event member) (Event.mem_sends.mp sent) with ⟨now, turn, _⟩ | ⟨call, accepted, _⟩
      · simp [Event.isTurn, turn]
      · simp [Event.isResync, call, accepted]
    silent := by
      intro event member ended asker sent
      rcases event.reacts.announces (made event member) (Event.mem_sends.mp sent) with ⟨_, _, phase⟩ | ⟨_, _, phase⟩ <;>
        simp [phase] at ended
    parted := Message.countP_isClosing fun asker => farewell_last name patience historyKeys operations asker
    last := by
      intro earlier asker later whole
      by_contra more
      refine farewell_last name patience historyKeys operations asker ?_
      rw [whole, List.dropLast_append_of_ne_nil (List.cons_ne_nil _ _), List.dropLast_cons_of_ne_nil more]
      exact List.mem_append_right _ List.mem_cons_self
    drawn := (Nat.le_add_right _ _).trans (drawn_after name patience historyKeys _)
    refused := fun event member fault unheard => idle_of_refused (made event member) fault unheard
    malformed := fun event _ data fault heard wrong => idle_of_malformed heard wrong
    deaf := fun event _ data heard ended => idle_of_ended heard ended }

end Portal

end Workbench
