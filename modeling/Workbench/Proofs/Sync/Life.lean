import Workbench.Proofs.Sync.Portal
import Workbench.Sync.Exchange

namespace Workbench

/-- The message that a deed of a portal posts. -/
def PortalDeed.message? : PortalDeed → Option Message
  | .send message => some message
  | _ => none

/-- Something that a portal reacts to, and the portal just before it. -/
structure Portal.Event where
  portal : Portal
  stimulus : Portal.Stimulus

namespace Portal

/-- What may happen to a portal in whose name nobody posts at will. The payload of an action is a text. -/
inductive Operation where
  | start
  | close
  | resync
  | send (payload : String)
  | hear (data : Value)
  | shake (now : Rat)
  | expire (action : Nat)

def Operation.stimulus : Operation → Stimulus
  | .start => .call .start
  | .close => .call .close
  | .resync => .call .resync
  | .send payload => .call (.act (.text payload))
  | .hear data => .hear data
  | .shake now => .shake now
  | .expire action => .expire action

/-- Whether something is an operation: not a message that somebody else makes up, nor a payload that is no
text. -/
def Stimulus.IsOperation (stimulus : Stimulus) : Prop :=
  ∃ operation : Operation, operation.stimulus = stimulus

theorem Stimulus.IsOperation.unposted {message : Message} : ¬ IsOperation (.call (.post message)) := by
  rintro ⟨operation, same⟩
  cases operation <;> cases same

theorem Stimulus.IsOperation.text {payload : Value} (made : IsOperation (.call (.act payload))) :
    ∃ text, payload = .text text := by
  obtain ⟨operation, same⟩ := made
  cases operation <;> cases same
  exact ⟨_, rfl⟩

/-- A portal after all that has happened to it, the latest first. -/
def after (first : Portal) : List Stimulus → Portal
  | [] => first
  | stimulus :: earlier => ((first.after earlier).react stimulus).portal

/-- The events of a portal, the latest first. -/
def life (first : Portal) : List Stimulus → List Event
  | [] => []
  | stimulus :: earlier => ⟨first.after earlier, stimulus⟩ :: first.life earlier

/-- Whether a portal is in a phase or was in it at one of its events. -/
def Was (portal : Portal) (past : List Event) (phase : PortalPhase) : Prop :=
  portal.phase = phase ∨ ∃ event ∈ past, event.portal.phase = phase

namespace Event

def outcome (event : Event) : PortalOutcome :=
  event.portal.react event.stimulus

def after (event : Event) : Portal :=
  event.outcome.portal

/-- The messages that a portal posts at an event. -/
def sends (event : Event) : List Message :=
  event.outcome.deeds.filterMap PortalDeed.message?

/-- What a portal has its view draw at an event. -/
def draws (event : Event) : List Drawing :=
  event.outcome.deeds.filterMap PortalDeed.drawing?

/-- All messages that a portal has posted, in order. -/
def sent (past : List Event) : List Message :=
  past.reverse.flatMap sends

/-- All that a portal has had its view draw, in order. -/
def shown (past : List Event) : List Drawing :=
  past.reverse.flatMap draws

@[simp] theorem sent_nil : sent [] = [] := rfl

@[simp] theorem shown_nil : shown [] = [] := rfl

@[simp] theorem sent_cons (event : Event) (past : List Event) : sent (event :: past) = sent past ++ event.sends := by
  simp [sent]

@[simp] theorem shown_cons (event : Event) (past : List Event) :
    shown (event :: past) = shown past ++ event.draws := by
  simp [shown]

theorem reacts (event : Event) : Reacts event.portal event.stimulus event.outcome :=
  Portal.reacts event.portal event.stimulus

theorem mem_sends {event : Event} {message : Message} :
    message ∈ event.sends ↔ .send message ∈ event.outcome.deeds := by
  rw [sends, List.mem_filterMap]
  constructor
  · rintro ⟨deed, member, same⟩
    cases deed <;> cases same
    exact member
  · exact fun member => ⟨_, member, rfl⟩

theorem mem_draws {event : Event} {drawing : Drawing} :
    drawing ∈ event.draws ↔ .draw drawing ∈ event.outcome.deeds := by
  rw [draws, List.mem_filterMap]
  constructor
  · rintro ⟨deed, member, same⟩
    cases deed <;> cases same
    exact member
  · exact fun member => ⟨_, member, rfl⟩

end Event

theorem stimulus_of_mem_life {first : Portal} {stimuli : List Stimulus} {event : Event}
    (member : event ∈ first.life stimuli) : event.stimulus ∈ stimuli := by
  induction stimuli with
  | nil => cases member
  | cons stimulus earlier ih =>
    rcases List.mem_cons.mp member with rfl | member
    · exact List.mem_cons_self
    · exact List.mem_cons_of_mem _ (ih member)

theorem isOperation_of_mem_life {first : Portal} {operations : List Operation} {event : Event}
    (member : event ∈ first.life (operations.map Operation.stimulus)) : event.stimulus.IsOperation := by
  obtain ⟨operation, _, same⟩ := List.mem_map.mp (stimulus_of_mem_life member)
  exact ⟨operation, same⟩

/-- What holds of a portal and is kept by every reaction holds ever after. -/
theorem after_invariant {first : Portal} (holds : Portal → Prop) (atFirst : holds first)
    (kept : ∀ {portal stimulus outcome}, Reacts portal stimulus outcome → holds portal → holds outcome.portal)
    (stimuli : List Stimulus) : holds (first.after stimuli) := by
  induction stimuli with
  | nil => exact atFirst
  | cons stimulus earlier ih => exact kept (Portal.reacts _ stimulus) ih

theorem patience_after (first : Portal) (stimuli : List Stimulus) :
    (first.after stimuli).patience = first.patience :=
  after_invariant (fun portal => portal.patience = first.patience) rfl
    (fun reacts same => reacts.frame.2.1.trans same) stimuli

theorem drawing?_farewell (portal : Portal) :
    (portal.farewell ++ [PortalDeed.leave]).filterMap PortalDeed.drawing? = [] := by
  unfold farewell
  split <;> rfl

theorem message?_farewell (portal : Portal) :
    (portal.farewell ++ [PortalDeed.leave]).filterMap PortalDeed.message? =
      if portal.phase = .initial then [] else [.closing (some portal.name)] := by
  unfold farewell
  split <;> rfl

theorem drawing?_drawn (portal : Portal) (histories : Fields (List (Fields Value))) :
    (portal.drawn histories).filterMap PortalDeed.drawing? =
      (histories.filter fun history => portal.historyKeys.contains history.1).map fun history =>
        .history history.1 history.2 := by
  rw [drawn, List.filterMap_map]
  exact congrFun List.filterMap_eq_map _

theorem message?_drawn (portal : Portal) (histories : Fields (List (Fields Value))) :
    (portal.drawn histories).filterMap PortalDeed.message? = [] := by
  rw [drawn, List.filterMap_map, List.filterMap_eq_nil_iff]
  exact fun _ _ => rfl

/-- How the parts of a portal agree with its phase and with each other. -/
structure Sound (portal : Portal) : Prop where
  begun : portal.started = true → portal.phase ≠ .initial
  synced : portal.phase = .synced → portal.snapshot.isSome = true
  failed : portal.phase = .failed → portal.failure.isSome = true
  copied : portal.snapshot.isSome = true → portal.phase = .synced ∨ portal.phase = .closed
  faulted : portal.failure.isSome = true → portal.phase = .failed ∨ portal.phase = .closed
  apart : portal.snapshot.isSome = true → portal.failure = none
  settled : portal.settled = true ↔ portal.snapshot.isSome = true ∨ portal.failure.isSome = true
  busy : portal.awaiting = true → portal.snapshot.isSome = true
  answered : portal.answered = true → portal.awaiting = false
  asked : 0 < portal.actions → portal.awaiting = false → portal.answered = true
  armed : portal.alarm.isSome = true → portal.awaiting = true ∧ portal.phase = .synced

theorem sound_make (name : String) (patience : Patience) (historyKeys : List String) :
    (make name patience historyKeys).Sound :=
  ⟨nofun, nofun, nofun, nofun, nofun, nofun, by simp [make], nofun, nofun, nofun, nofun⟩

theorem isSome_merged (portal : Portal) (histories : Fields (List (Fields Value))) :
    (portal.merged histories).isSome = portal.snapshot.isSome :=
  Option.isSome_map

theorem phase_of_wants {portal : Portal} (wanted : portal.wants = true) :
    portal.phase = .handshaking ∨ portal.phase = .synced := by
  simp only [wants, Bool.or_eq_true, decide_eq_true_eq, Bool.and_eq_true] at wanted
  exact wanted.imp_right And.left

/-- A portal that has just taken over a snapshot. -/
theorem Sound.adopted {portal : Portal} (sound : portal.Sound) (wanted : portal.wants = true) (snapshot : Snapshot) :
    { portal with
      shaking := false, resync := false, snapshot := some snapshot, phase := .synced, settled := true }.Sound := by
  have unfailed : portal.failure = none := by
    cases fault : portal.failure with
    | none => rfl
    | some timeout =>
      have ended := sound.faulted (by rw [fault]; rfl)
      rcases phase_of_wants wanted with phase | phase <;> simp [phase] at ended
  exact { sound with
    begun := fun _ => nofun
    synced := fun _ => rfl
    failed := nofun
    copied := fun _ => Or.inl rfl
    faulted := by simp [unfailed]
    apart := fun _ => unfailed
    settled := by simp
    busy := fun _ => rfl
    armed := fun armed => ⟨(sound.armed armed).1, rfl⟩ }

/-- A portal whose handshake has just come to nothing. -/
theorem Sound.gaveUp {portal : Portal} (sound : portal.Sound) (phase : portal.phase = .handshaking) :
    portal.giveUp.portal.Sound := by
  have bare : portal.snapshot = none := by
    cases copy : portal.snapshot with
    | none => rfl
    | some snapshot =>
      have synced := sound.copied (by rw [copy]; rfl)
      simp [phase] at synced
  exact { sound with
    begun := fun _ => nofun
    synced := nofun
    failed := fun _ => rfl
    copied := by simp [giveUp, does, bare]
    faulted := fun _ => Or.inl rfl
    apart := by simp [giveUp, does, bare]
    settled := by simp [giveUp, does]
    armed := by
      intro armed
      have synced := (sound.armed armed).2
      rw [phase] at synced
      cases synced }

/-- Histories that are taken over change a copy, but they are none by themselves. -/
theorem Sound.merged {portal : Portal} (sound : portal.Sound) (histories : Fields (List (Fields Value))) :
    { portal with snapshot := portal.merged histories }.Sound := by
  have same := portal.isSome_merged histories
  exact { sound with
    synced := fun phase => same.trans (sound.synced phase)
    copied := fun copy => sound.copied (same.symm.trans copy)
    apart := fun copy => sound.apart (same.symm.trans copy)
    settled := by simpa only [same] using sound.settled
    busy := fun waits => same.trans (sound.busy waits) }

/-- A portal whose request is over. -/
theorem Sound.released {portal : Portal} (sound : portal.Sound) :
    { portal with awaiting := false, alarm := none, answered := true }.Sound :=
  { sound with
    busy := nofun
    answered := fun _ => rfl
    asked := fun _ _ => rfl
    armed := nofun }

/-- Every reaction leaves the parts of a portal in accord. -/
theorem Sound.after {portal : Portal} {stimulus : Stimulus} {outcome : PortalOutcome}
    (reacts : Reacts portal stimulus outcome) (sound : portal.Sound) : outcome.portal.Sound := by
  cases reacts with
  | alreadyStarted | closedAgain | cannotResync | resynced | posted | undecodable | cannotAct | alreadyAwaiting | deaf
  | dropped | passed | unreadable | rested | announced | outdated => exact { sound with }
  | started fresh =>
    exact { sound with
      begun := fun _ => nofun
      synced := nofun
      failed := nofun
      copied := fun copy => by simpa [fresh] using sound.copied copy
      faulted := fun fault => by simpa [fresh] using sound.faulted fault
      armed := fun armed => by simpa [fresh] using sound.armed armed }
  | closed =>
    exact { sound with
      begun := fun _ => nofun
      synced := nofun
      failed := nofun
      copied := fun _ => Or.inr rfl
      faulted := fun _ => Or.inr rfl
      armed := nofun }
  | badPayload _ _ _ synced | asked _ _ synced | askedFor _ _ _ synced =>
    exact { sound with
      busy := fun _ => sound.synced synced
      answered := nofun
      asked := nofun
      armed := fun _ => ⟨rfl, synced⟩ }
  | adopted _ _ snapshot wanted => exact sound.adopted wanted snapshot
  | received _ histories => exact sound.merged histories
  | served _ histories => exact (sound.merged histories).released
  | gaveUp _ _ phase => exact sound.gaveUp phase
  | needless => exact { sound with armed := nofun }
  | expired => exact sound.released

theorem sound_after (name : String) (patience : Patience) (historyKeys : List String) (stimuli : List Stimulus) :
    ((make name patience historyKeys).after stimuli).Sound :=
  after_invariant Sound (sound_make name patience historyKeys) Sound.after stimuli

end Portal

end Workbench
