import Workbench.Proofs.Sync.Life

namespace Workbench

def Message.isRequest : Message → Bool
  | .request .. => true
  | _ => false

/-- Whether a drawing opens the input or shuts it, if it does one of them. -/
def Drawing.input? : Drawing → Option Bool
  | .input enabled => some enabled
  | _ => none

namespace Portal

/-- What a step does to the input: whether a request is out before it and after it, how the input is opened and
shut, and how many requests are posted. -/
inductive Gate : Bool → Bool → List Bool → Nat → Prop
  | still (awaiting : Bool) : Gate awaiting awaiting [] 0
  | shuts : Gate false true [false] 1
  | opens : Gate true false [true] 0

/-- The input is shut first and then opened and shut in turn, it is shut as long as a request is out, and each
request has shut it once. -/
structure Alternates (awaiting : Bool) (inputs : List Bool) (requests : Nat) : Prop where
  turns : inputs.IsChain (· ≠ ·)
  shut : inputs.head? ≠ some true
  last : awaiting = true ↔ inputs.getLast? = some false
  count : requests = inputs.count false

theorem Alternates.next {before after : Bool} {inputs new : List Bool} {requests more : Nat}
    (alternates : Alternates before inputs requests) (gate : Gate before after new more) :
    Alternates after (inputs ++ new) (requests + more) := by
  -- The chain grows at its end, so its head changes only if there was none.
  cases gate with
  | still =>
    rw [List.append_nil]
    exact alternates
  | shuts =>
    have opened : ∀ last ∈ inputs.getLast?, last ≠ false := by
      rintro last member rfl
      exact Bool.false_ne_true (alternates.last.mpr member)
    exact {
      turns := List.IsChain.append alternates.turns (.singleton _) (by simpa using opened)
      shut := by
        cases inputs with
        | nil => simp
        | cons first rest => exact alternates.shut
      last := by simp
      count := by rw [List.count_append, alternates.count]; rfl }
  | opens =>
    have closed := alternates.last.mp rfl
    exact {
      turns := List.IsChain.append alternates.turns (.singleton _) (by simp [closed])
      shut := by
        cases inputs with
        | nil => cases closed
        | cons first rest => exact alternates.shut
      last := by simp
      count := by rw [List.count_append, alternates.count]; rfl }

namespace Event

/-- How a portal has opened and shut the input, in order. -/
def inputs (past : List Event) : List Bool :=
  (shown past).filterMap Drawing.input?

theorem inputs_cons (event : Event) (past : List Event) :
    inputs (event :: past) = inputs past ++ event.draws.filterMap Drawing.input? := by
  rw [inputs, shown_cons, List.filterMap_append, inputs]

end Event

theorem input?_drawn (portal : Portal) (histories : Fields (List (Fields Value))) :
    ((portal.drawn histories).filterMap PortalDeed.drawing?).filterMap Drawing.input? = [] := by
  rw [drawing?_drawn, List.filterMap_map, List.filterMap_eq_nil_iff]
  exact fun _ _ => rfl

/-- Each course of a portal leaves the input alone, shuts it with a request, or opens it after one. -/
theorem Reacts.gate {portal : Portal} {stimulus : Stimulus} {outcome : PortalOutcome}
    (reacts : Reacts portal stimulus outcome) (made : stimulus.IsOperation) :
    Gate portal.awaiting outcome.portal.awaiting
      ((outcome.deeds.filterMap PortalDeed.drawing?).filterMap Drawing.input?)
      ((outcome.deeds.filterMap PortalDeed.message?).countP Message.isRequest) := by
  cases reacts with
  | posted => exact absurd made Stimulus.IsOperation.unposted
  | badPayload payload _ _ _ _ refused =>
    obtain ⟨text, rfl⟩ := made.text
    cases refused
  | closed =>
    have unasked : ((portal.farewell ++ [PortalDeed.leave]).filterMap PortalDeed.message?).countP
        Message.isRequest = 0 := by
      rw [message?_farewell]
      split <;> rfl
    rw [does, drawing?_farewell, unasked]
    exact .still _
  | asked _ _ _ idle =>
    rw [idle]
    exact .shuts
  | askedFor _ _ _ _ idle =>
    rw [idle]
    exact .shuts
  | received _ histories =>
    rw [does, input?_drawn, message?_drawn]
    exact .still _
  | served _ histories _ _ _ own =>
    have waiting : portal.awaiting = true := (Bool.and_eq_true_iff.mp own).1
    rw [does, List.filterMap_append, List.filterMap_append, List.filterMap_append, input?_drawn, message?_drawn,
      waiting]
    exact .opens
  | expired _ _ waiting =>
    rw [waiting]
    exact .opens
  | _ => exact .still _

/-- A portal that has asked already or is out of step refuses to ask, and does nothing else. -/
theorem refuses_act {portal : Portal} (payload : Value) (unable : portal.awaiting = true ∨ portal.phase ≠ .synced) :
    ∃ fault, portal.act payload = portal.refuses fault := by
  unfold act
  by_cases synced : portal.phase = .synced
  · rw [if_neg (not_not.mpr synced), if_pos (unable.resolve_right (not_not.mpr synced))]
    exact ⟨_, rfl⟩
  · rw [if_pos synced]
    exact ⟨_, rfl⟩

/-- How a portal keeps the input, the request that is out and the alarm for it together. -/
structure Gated (portal : Portal) (past : List Event) : Prop where
  alternates : Alternates portal.awaiting (Event.inputs past) ((Event.sent past).countP Message.isRequest)
  armed : portal.alarm.isSome = true → portal.awaiting = true ∧ portal.phase = .synced
  answered : portal.answered = true → portal.awaiting = false
  refused : ∀ event ∈ past, ∀ payload, event.stimulus = .call (.act payload) →
    event.portal.awaiting = true ∨ event.portal.phase ≠ .synced →
      event.outcome.fault.isSome = true ∧ event.outcome.deeds = [] ∧ event.after = event.portal

variable (name : String) (patience : Patience) (historyKeys : List String)

theorem alternates_after (operations : List Operation) :
    Alternates ((make name patience historyKeys).after (operations.map Operation.stimulus)).awaiting
      (Event.inputs ((make name patience historyKeys).life (operations.map Operation.stimulus)))
      ((Event.sent ((make name patience historyKeys).life (operations.map Operation.stimulus))).countP
        Message.isRequest) := by
  induction operations with
  | nil => exact ⟨.nil, nofun, by simp [Portal.after, make, Event.inputs, life], rfl⟩
  | cons operation earlier ih =>
    rw [List.map_cons, life, Event.inputs_cons, Event.sent_cons, List.countP_append]
    exact ih.next ((Portal.reacts _ operation.stimulus).gate ⟨operation, rfl⟩)

/-- The input of a portal is open unless a request is out, whatever is done with the portal and in whatever
order. -/
theorem gated_after (operations : List Operation) :
    Gated ((make name patience historyKeys).after (operations.map Operation.stimulus))
      ((make name patience historyKeys).life (operations.map Operation.stimulus)) := by
  have sound := sound_after name patience historyKeys (operations.map Operation.stimulus)
  refine ⟨alternates_after name patience historyKeys operations, sound.armed, sound.answered, ?_⟩
  intro event _ payload asked unable
  obtain ⟨fault, refused⟩ := refuses_act payload unable
  have outcome : event.outcome = event.portal.refuses fault := by
    rw [Event.outcome, asked]
    exact refused
  rw [Event.after, outcome]
  exact ⟨rfl, rfl, rfl⟩

end Portal

end Workbench
