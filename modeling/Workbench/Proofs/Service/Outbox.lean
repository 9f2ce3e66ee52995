import Workbench.Proofs.Session.Serve
import Workbench.Service.Basic

namespace Workbench

/-- What happens to the messages that a seat keeps for portals beyond the process: one arrives, or somebody
takes what is for them. -/
inductive Visit where
  | arrival (message : Value)
  | drain (portal : Option String)

namespace Outbox

theorem mem_drained {outbox : Outbox} {portal : Option String} {message : Value} :
    message ∈ (outbox.drain portal).1 ↔ message ∈ outbox ∧ isFor portal message = true := by
  simp only [drain, List.partition_eq_filter_filter, List.mem_filter]

theorem mem_kept {outbox : Outbox} {portal : Option String} {message : Value} :
    message ∈ (outbox.drain portal).2 ↔ message ∈ outbox ∧ isFor portal message = false := by
  simp only [drain, List.partition_eq_filter_filter, List.mem_filter, Function.comp_apply, Bool.not_eq_true']

/-- What names nobody is for whoever asks. -/
theorem isFor_of_nameless {message : Value} (nameless : addressee message = .null) (portal : Option String) :
    isFor portal message = true := by
  cases portal with
  | none => rfl
  | some name => simp only [isFor, nameless, decide_true, Bool.true_or]

/-- What stays when somebody asks names another portal. -/
theorem named_of_stays {portal : Option String} {message : Value} (stays : isFor portal message = false) :
    ∃ asked named, portal = some asked ∧ message.member? "portal" = some named ∧ named ≠ .null ∧
      named ≠ .text asked := by
  cases portal with
  | none => cases stays
  | some asked =>
    simp only [isFor, Bool.or_eq_false_iff] at stays
    obtain ⟨named, apart⟩ := stays.imp of_decide_eq_false of_decide_eq_false
    unfold addressee at named apart
    cases found : message.member? "portal" with
    | none =>
      rw [found] at named
      exact absurd rfl named
    | some other =>
      rw [found] at named apart
      exact ⟨asked, other, rfl, rfl, named, apart⟩

end Outbox

namespace Seat

/-- The messages that wait at a seat. -/
def outbox (seat : Seat) : Outbox := seat.exchange.state.observed

/-- A message arrives when the observer hears it. -/
def visit (seat : Seat) : Visit → List Value × Seat
  | .arrival message => ([], { seat with
      exchange := { seat.exchange with state := (seat.exchange.state.hear message .observer).1 } })
  | .drain portal => seat.drain portal

/-- The seat after visits, the first one first. -/
def visits (seat : Seat) (visits : List Visit) : Seat :=
  visits.foldl (fun seat visit => (seat.visit visit).2) seat

theorem outbox_arrival (seat : Seat) (message : Value) :
    (seat.visit (.arrival message)).2.outbox = seat.outbox ++ [message] := rfl

theorem outbox_drain (seat : Seat) (portal : Option String) :
    (seat.visit (.drain portal)).2.outbox = (seat.outbox.drain portal).2 := rfl

theorem drain_eq_outbox (seat : Seat) (portal : Option String) :
    (seat.drain portal).1 = (seat.outbox.drain portal).1 := rfl

theorem visits_cons (seat : Seat) (visit : Visit) (later : List Visit) :
    seat.visits (visit :: later) = (seat.visit visit).2.visits later := rfl

theorem visits_append (seat : Seat) (early late : List Visit) :
    seat.visits (early ++ late) = (seat.visits early).visits late :=
  List.foldl_append ..

/-- A message waits until somebody asks. -/
theorem mem_outbox_visits {seat : Seat} {visits : List Visit} {message : Value} (waits : message ∈ seat.outbox)
    (undrained : ∀ portal, .drain portal ∉ visits) : message ∈ (seat.visits visits).outbox := by
  induction visits generalizing seat with
  | nil => exact waits
  | cons visit rest ih =>
    have later : ∀ portal, .drain portal ∉ rest := fun portal member =>
      undrained portal (List.mem_cons_of_mem visit member)
    refine ih ?_ later
    cases visit with
    | arrival other =>
      rw [outbox_arrival]
      exact List.mem_append_left _ waits
    | drain portal => exact absurd List.mem_cons_self (undrained portal)

/-- A message that does not wait comes back only by another arrival. -/
theorem notMem_outbox_visits {seat : Seat} {visits : List Visit} {message : Value} (gone : message ∉ seat.outbox)
    (unseen : .arrival message ∉ visits) : message ∉ (seat.visits visits).outbox := by
  induction visits generalizing seat with
  | nil => exact gone
  | cons visit rest ih =>
    refine ih ?_ fun member => unseen (List.mem_cons_of_mem visit member)
    cases visit with
    | arrival other =>
      rw [outbox_arrival, List.mem_append, List.mem_singleton]
      rintro (waits | rfl)
      · exact gone waits
      · exact unseen List.mem_cons_self
    | drain portal =>
      rw [outbox_drain, Outbox.mem_kept]
      exact fun kept => gone kept.1

/-- A message that names nobody goes to the first who asks after its arrival and to nobody after that: a
portal gets it if and only if no other has asked in between. -/
theorem returned_iff_undrained (seat : Seat) (before between : List Visit) (message : Value) (name : String)
    (nameless : Outbox.addressee message = .null) (once : .arrival message ∉ between) :
    message ∈ ((seat.visits (before ++ .arrival message :: between)).drain (some name)).1 ↔
      ∀ portal, .drain portal ∉ between := by
  rw [drain_eq_outbox, Outbox.mem_drained, visits_append, visits_cons]
  have arrived : message ∈ ((seat.visits before).visit (.arrival message)).2.outbox := by
    rw [outbox_arrival]
    exact List.mem_append_right _ (List.mem_singleton_self message)
  generalize ((seat.visits before).visit (.arrival message)).2 = reached at arrived
  constructor
  · rintro ⟨waits, _⟩ portal member
    obtain ⟨early, late, whole⟩ := List.append_of_mem member
    have taken : message ∉ ((reached.visits early).visit (.drain portal)).2.outbox := by
      rw [outbox_drain, Outbox.mem_kept, Outbox.isFor_of_nameless nameless]
      exact fun kept => Bool.true_eq_false.mp kept.2
    have unseen : .arrival message ∉ late := by
      intro again
      refine once ?_
      rw [whole]
      exact List.mem_append_right _ (List.mem_cons_of_mem _ again)
    rw [whole, visits_append, visits_cons] at waits
    exact notMem_outbox_visits taken unseen waits
  · intro undrained
    exact ⟨mem_outbox_visits arrived undrained, Outbox.isFor_of_nameless nameless _⟩

/-- A seat whose session is bare, with its bridge open. -/
def bareSeat : Seat :=
  bridge ⟨Exchange.make "lab" Session.bare [], false⟩

/-- The update that tells every portal of the bare session. -/
def news : Value :=
  .object [("type", .text "STATE_UPDATE"), ("payload", Session.bare.snapshot.toValue)]

/-- An answer to a portal. -/
def reply : Value :=
  .object [("type", .text "ACTION_RESPONSE"), ("portal", .text "metis")]

theorem returned_iff_undrained_news :
    news ∈ ((bareSeat.visits [.drain (some "metis"), .arrival news, .arrival reply]).drain (some "pupa")).1 :=
  (returned_iff_undrained bareSeat [.drain (some "metis")] [.arrival reply] news "pupa" (by decide)
    (by simp [news, reply])).mpr (by simp)

/-- The portal that asks second misses an update that is for all. -/
theorem second_misses_news :
    Outbox.addressee news = .null ∧
      news ∈ ((bareSeat.visits [.arrival news]).drain (some "metis")).1 ∧
      news ∉ ((bareSeat.visits [.arrival news, .drain (some "metis")]).drain (some "pupa")).1 := by
  decide +kernel

end Seat

end Workbench
