import Workbench.Proofs.Sync.Envelope
import Workbench.Proofs.Sync.Gate
import Workbench.Proofs.Sync.Waiting

namespace Workbench.Portal

/-- Whether data is the answer to a request of a portal of this name. -/
def IsAnswer (name : String) (data : Value) : Prop :=
  ∃ histories, Message.parse data = .ok (.response histories (some name))

/-- Whether data would end a request of a portal of this name: an answer to it, or one to nobody. -/
def Concerns (name : String) (data : Value) : Prop :=
  ∃ histories addressee, Message.parse data = .ok (.response histories addressee) ∧
    (addressee = none ∨ addressee = some name)

/-- What happens to a portal whose requests are answered in their order: something else, or the arrival of the
answer to its oldest request that has none. -/
inductive Entry where
  | happens (operation : Operation)
  | answers (data : Value)

/-- The answers of a portal are answers to it, and nothing else is. -/
def Entry.IsProper (name : String) : Entry → Prop
  | .happens operation => ∀ data, operation = .hear data → ¬ Concerns name data
  | .answers data => IsAnswer name data

/-- A portal, the numbers of its requests that have no answer yet, the oldest first, how many requests have ended
without an answer, and how many answers have ended no request. -/
structure Ledger where
  portal : Portal
  unanswered : List Nat
  lapsed : Nat
  late : Nat

/-- Whether a reaction of a portal ends the request that it waits for. -/
def ends (portal : Portal) (stimulus : Stimulus) : Bool :=
  portal.awaiting && !(portal.react stimulus).portal.awaiting

/-- The numbers of the requests that a portal posts as it reacts. -/
def asks (portal : Portal) (stimulus : Stimulus) : List Nat :=
  (((portal.react stimulus).deeds.filterMap PortalDeed.message?).filter Message.isRequest).map fun _ =>
    (portal.react stimulus).portal.actions

namespace Ledger

def enter (ledger : Ledger) : Entry → Ledger
  | .happens operation => {
      portal := (ledger.portal.react operation.stimulus).portal
      unanswered := ledger.unanswered ++ ledger.portal.asks operation.stimulus
      lapsed := ledger.lapsed + (ledger.portal.ends operation.stimulus).toNat
      late := ledger.late }
  | .answers data => match ledger.unanswered with
    | [] => ledger
    | _ :: rest => {
        portal := (ledger.portal.react (.hear data)).portal
        unanswered := rest
        lapsed := ledger.lapsed
        late := ledger.late + (!ledger.portal.ends (.hear data)).toNat }

/-- The ledger of a new portal after all that has happened, the latest first. -/
def after (first : Portal) : List Entry → Ledger
  | [] => ⟨first, [], 0, 0⟩
  | entry :: earlier => (after first earlier).enter entry

/-- The number of the request whose answer arrives, if with it the portal waits no more. -/
def ended? (ledger : Ledger) (data : Value) : Option Nat :=
  if ledger.portal.ends (.hear data) then ledger.unanswered.head? else none

end Ledger

namespace Reacts

variable {portal : Portal} {stimulus : Stimulus} {outcome : PortalOutcome}

/-- A request has the number of all requests that a portal has posted until then. -/
theorem actions (reacts : Reacts portal stimulus outcome) (made : stimulus.IsOperation) :
    outcome.portal.actions =
      portal.actions + (outcome.deeds.filterMap PortalDeed.message?).countP Message.isRequest := by
  cases reacts with
  | posted => exact absurd made Stimulus.IsOperation.unposted
  | closed =>
    rw [does, message?_farewell]
    split <;> rfl
  | received _ histories => rw [does, message?_drawn]; rfl
  | served _ histories =>
    rw [does, List.filterMap_append, message?_drawn]
    rfl
  | _ => rfl

/-- Only an answer that concerns a portal, or the time that has run out, ends its request. -/
theorem ended (reacts : Reacts portal stimulus outcome) (waiting : portal.awaiting = true)
    (idle : outcome.portal.awaiting = false) :
    (∃ data, stimulus = .hear data ∧ Concerns portal.name data) ∨ portal.alarm.isSome = true := by
  cases reacts with
  | served data histories addressee _ read own =>
    have named : addressee = none ∨ addressee = some portal.name := by simpa [isServed, waiting] using own
    exact Or.inl ⟨data, rfl, histories, addressee, read, named⟩
  | expired _ armed => exact Or.inr (by rw [armed]; rfl)
  | badPayload | asked | askedFor => cases idle
  | _ => exact absurd (waiting.symm.trans idle) (by simp)

/-- A portal that waits for answers for ever sets no alarm. -/
theorem unarmed (reacts : Reacts portal stimulus outcome) (patient : portal.patience.action = none)
    (quiet : portal.alarm = none) : outcome.portal.alarm = none := by
  cases reacts with
  | askedFor _ _ _ _ _ span => cases patient.symm.trans span
  | closed | served | needless | expired => rfl
  | _ => exact quiet

end Reacts

/-- What happens to a portal leaves it waiting as before, or ends its request, or makes it post the next one. -/
theorem asks_cases (portal : Portal) {stimulus : Stimulus} (made : stimulus.IsOperation) :
    (portal.asks stimulus = [] ∧ (portal.react stimulus).portal.actions = portal.actions ∧
        portal.awaiting.toNat = (portal.react stimulus).portal.awaiting.toNat + (portal.ends stimulus).toNat) ∨
      portal.asks stimulus = [portal.actions + 1] ∧
        (portal.react stimulus).portal.actions = portal.actions + 1 ∧ portal.awaiting = false ∧
        (portal.react stimulus).portal.awaiting = true := by
  have reacts := Portal.reacts portal stimulus
  have numbered := reacts.actions made
  have gate := reacts.gate made
  have listed : portal.asks stimulus =
      List.replicate (((portal.react stimulus).deeds.filterMap PortalDeed.message?).countP Message.isRequest)
        (portal.react stimulus).portal.actions := by
    rw [asks, List.map_const', List.countP_eq_length_filter]
  rw [listed, ends, numbered]
  generalize ((portal.react stimulus).deeds.filterMap PortalDeed.message?).countP Message.isRequest = posted at gate
  generalize (((portal.react stimulus).deeds.filterMap PortalDeed.drawing?).filterMap Drawing.input?) = inputs at gate
  generalize portal.awaiting = before at gate
  generalize (portal.react stimulus).portal.awaiting = later at gate
  cases gate with
  | still => exact Or.inl ⟨rfl, rfl, by cases before <;> rfl⟩
  | shuts => exact Or.inr ⟨rfl, rfl, rfl, rfl⟩
  | opens => exact Or.inl ⟨rfl, rfl, rfl⟩

/-- A portal asks nothing and does not begin to wait when it hears something. -/
theorem hears (portal : Portal) (data : Value) :
    (portal.react (.hear data)).portal.actions = portal.actions ∧
      portal.awaiting.toNat =
        (portal.react (.hear data)).portal.awaiting.toNat + (portal.ends (.hear data)).toNat := by
  have reacts := Portal.reacts portal (.hear data)
  rw [ends]
  generalize portal.react (.hear data) = outcome at *
  cases reacts with
  | served => exact ⟨rfl, by simp [does]⟩
  | _ => exact ⟨rfl, by simp [does, refuses]⟩

namespace Ledger

/-- The books of a portal: the requests without an answer are its latest ones. There are as many as have ended
without an answer, less the answers that have ended none, and the one that the portal waits for. -/
structure Balanced (name : String) (action : Option Rat) (ledger : Ledger) : Prop where
  named : ledger.portal.name = name
  timed : ledger.portal.patience.action = action
  numbers : ∃ answered, answered + ledger.unanswered.length = ledger.portal.actions ∧
    ledger.unanswered = List.range' (answered + 1) ledger.unanswered.length
  balance : ledger.unanswered.length + ledger.late = ledger.lapsed + ledger.portal.awaiting.toNat
  patient : action = none → ledger.portal.alarm = none ∧ ledger.lapsed = 0

theorem balanced_make (name : String) (patience : Patience) (historyKeys : List String) :
    Balanced name patience.action ⟨make name patience historyKeys, [], 0, 0⟩ :=
  ⟨rfl, rfl, ⟨0, rfl, rfl⟩, rfl, fun _ => ⟨rfl, rfl⟩⟩

variable {name : String} {action : Option Rat} {ledger : Ledger}

/-- What happens to a portal that waits for answers for ever ends no request. -/
theorem Balanced.unended (balanced : Balanced name action ledger) {operation : Operation}
    (proper : (Entry.happens operation).IsProper name) (patient : action = none) :
    ledger.portal.ends operation.stimulus = false := by
  by_contra ends
  simp only [Portal.ends, Bool.not_eq_false, Bool.and_eq_true, Bool.not_eq_true'] at ends
  rcases (Portal.reacts _ _).ended ends.1 ends.2 with ⟨data, heard, concerns⟩ | armed
  · rw [balanced.named] at concerns
    cases operation <;> cases heard
    exact proper data rfl concerns
  · rw [(balanced.patient patient).1] at armed
    cases armed

theorem Balanced.happens (balanced : Balanced name action ledger) {operation : Operation}
    (proper : (Entry.happens operation).IsProper name) : Balanced name action (ledger.enter (.happens operation)) := by
  have reacts := Portal.reacts ledger.portal operation.stimulus
  obtain ⟨answered, counted, consecutive⟩ := balanced.numbers
  have balance := balanced.balance
  have course := asks_cases ledger.portal ⟨operation, rfl⟩
  refine ⟨reacts.frame.1.trans balanced.named, ?_, ⟨answered, ?_, ?_⟩, ?_, ?_⟩
  · rw [← balanced.timed, ← reacts.frame.2.1]
    rfl
  · rw [enter, List.length_append]
    rcases course with ⟨asks, same, _⟩ | ⟨asks, next, _⟩
    · rw [asks, same]
      exact counted
    · rw [asks, next, ← counted]
      rfl
  · rw [enter, List.length_append]
    rcases course with ⟨asks, _⟩ | ⟨asks, _⟩
    · rw [asks, List.append_nil]
      exact consecutive
    · rw [asks, List.length_singleton, List.range'_1_concat, ← consecutive, ← counted, Nat.add_right_comm]
  · rw [enter, List.length_append]
    rcases course with ⟨asks, _, waits⟩ | ⟨asks, _, idle, waits⟩
    · rw [asks]
      dsimp only [List.length_nil]
      omega
    · rw [idle, Bool.toNat_false] at balance
      rw [asks, Portal.ends, idle, waits]
      simp only [List.length_singleton, Bool.false_and, Bool.toNat_false, Bool.toNat_true]
      omega
  · intro patient
    have quiet := balanced.patient patient
    refine ⟨reacts.unarmed (balanced.timed.trans patient) quiet.1, ?_⟩
    rw [enter, balanced.unended proper patient, quiet.2]
    rfl

theorem Balanced.answers (balanced : Balanced name action ledger) (data : Value) :
    Balanced name action (ledger.enter (.answers data)) := by
  have reacts := Portal.reacts ledger.portal (.hear data)
  obtain ⟨answered, counted, consecutive⟩ := balanced.numbers
  have balance := balanced.balance
  rw [enter]
  cases listed : ledger.unanswered with
  | nil => exact balanced
  | cons number rest =>
    rw [listed, List.length_cons] at counted consecutive balance
    obtain ⟨_, later⟩ := List.cons.inj consecutive
    obtain ⟨same, waits⟩ := hears ledger.portal data
    refine ⟨reacts.frame.1.trans balanced.named, ?_, ⟨answered + 1, ?_, later⟩, ?_, ?_⟩
    · rw [← balanced.timed, ← reacts.frame.2.1]
    · dsimp only
      omega
    · cases ended : ledger.portal.ends (.hear data) <;> rw [ended] at waits <;>
        simp only [Bool.toNat_true, Bool.toNat_false, Bool.not_true, Bool.not_false] at waits ⊢ <;> omega
    · intro patient
      have quiet := balanced.patient patient
      exact ⟨reacts.unarmed (balanced.timed.trans patient) quiet.1, quiet.2⟩

/-- The books balance whatever happens to the portal, as long as its requests are answered in their order. -/
theorem balanced_after (name : String) (patience : Patience) (historyKeys : List String) {entries : List Entry}
    (proper : ∀ entry ∈ entries, entry.IsProper name) :
    Balanced name patience.action (after (make name patience historyKeys) entries) := by
  induction entries with
  | nil => exact balanced_make name patience historyKeys
  | cons entry earlier ih =>
    have balanced := ih fun entry member => proper entry (List.mem_cons_of_mem _ member)
    cases entry with
    | happens operation => exact balanced.happens (proper _ List.mem_cons_self)
    | answers data => exact balanced.answers data

theorem Balanced.ended (balanced : Balanced name action ledger) {data : Value} {number : Nat}
    (ended : ledger.ended? data = some number) :
    number ≤ ledger.portal.actions ∧ number + ledger.unanswered.length = ledger.portal.actions + 1 ∧
      ledger.unanswered.length + ledger.late = ledger.lapsed + 1 := by
  unfold ended? at ended
  split at ended
  · rename_i ends
    obtain ⟨answered, counted, consecutive⟩ := balanced.numbers
    have balance := balanced.balance
    have waiting : ledger.portal.awaiting = true := (Bool.and_eq_true_iff.mp ends).1
    obtain ⟨rest, listed⟩ := List.head?_eq_some_iff.mp ended
    rw [listed, List.length_cons, List.range'_succ] at consecutive
    have first := (List.cons.inj consecutive).1
    rw [listed, List.length_cons] at counted balance ⊢
    rw [waiting, Bool.toNat_true] at balance
    omega
  · cases ended

/-- An answer with which a portal stops to wait is the one to the request it waits for if and only if as many
answers have come too late as requests have ended without one. It always is if the portal waits for answers for
ever. -/
theorem ended_iff (name : String) (patience : Patience) (historyKeys : List String) (earlier : List Entry)
    (proper : ∀ entry ∈ earlier, entry.IsProper name) {data : Value} {number : Nat}
    (ended : (after (make name patience historyKeys) earlier).ended? data = some number) :
    let ledger := after (make name patience historyKeys) earlier
    number ≤ ledger.portal.actions ∧ (number = ledger.portal.actions ↔ ledger.lapsed = ledger.late) ∧
      (patience.action = none → number = ledger.portal.actions) := by
  have balanced := balanced_after name patience historyKeys proper
  obtain ⟨bound, counted, balance⟩ := balanced.ended ended
  refine ⟨bound, by omega, fun patient => ?_⟩
  have unlapsed := (balanced.patient patient).2
  omega

/-- What a primary answers if an action touches no history. -/
def plainAnswer : Value :=
  (Message.response [] (some "metis")).toValue

/-- A portal asks, the time for the answer runs out, the answer comes late, and only then the portal asks again. -/
def patientEntries : List Entry :=
  [.happens (.send "two"), .answers plainAnswer, .happens (.expire 1), .happens (.send "one"),
    .happens (.hear emptyUpdate), .happens .start]

/-- A portal asks, the time for the answer runs out, and it asks again at once. -/
def impatientEntries : List Entry :=
  [.happens (.send "two"), .happens (.expire 1), .happens (.send "one"), .happens (.hear emptyUpdate),
    .happens .start]

theorem isAnswer_plainAnswer : IsAnswer "metis" plainAnswer :=
  ⟨[], Message.parse_toValue _⟩

theorem isProper_emptyUpdate (name : String) : (Entry.happens (.hear emptyUpdate)).IsProper name := by
  rintro data heard ⟨histories, addressee, read, _⟩
  cases heard
  have update : Message.parse emptyUpdate = .ok (.update ⟨[], [], [], []⟩) := by rfl
  rw [update] at read
  cases read

theorem isProper_patientEntries : ∀ entry ∈ patientEntries, entry.IsProper "metis" := by
  simp only [patientEntries, List.forall_mem_cons, isProper_emptyUpdate]
  simp [Entry.IsProper, isAnswer_plainAnswer]

theorem isProper_impatientEntries : ∀ entry ∈ impatientEntries, entry.IsProper "metis" := by
  simp only [impatientEntries, List.forall_mem_cons, isProper_emptyUpdate]
  simp [Entry.IsProper]

theorem ended_iff_patient :
    let ledger := after (make "metis" ⟨1 / 10, 3, some 1⟩ []) patientEntries
    ledger.ended? plainAnswer = some 2 ∧ 2 ≤ ledger.portal.actions ∧
      (2 = ledger.portal.actions ↔ ledger.lapsed = ledger.late) ∧
      ((some 1 : Option Rat) = none → 2 = ledger.portal.actions) :=
  have ended : (after (make "metis" ⟨1 / 10, 3, some 1⟩ []) patientEntries).ended? plainAnswer = some 2 := by
    decide +kernel
  ⟨ended, ended_iff "metis" ⟨1 / 10, 3, some 1⟩ [] patientEntries isProper_patientEntries ended⟩

/-- The answer to the first request of such a portal ends its second one. -/
theorem late_answer_ends_next :
    (∀ entry ∈ impatientEntries, entry.IsProper "metis") ∧ IsAnswer "metis" plainAnswer ∧
      (after (make "metis" ⟨1 / 10, 3, some 1⟩ []) impatientEntries).ended? plainAnswer = some 1 ∧
      (after (make "metis" ⟨1 / 10, 3, some 1⟩ []) impatientEntries).portal.actions = 2 :=
  ⟨isProper_impatientEntries, isAnswer_plainAnswer, by decide +kernel, by decide +kernel⟩

end Ledger

end Workbench.Portal
