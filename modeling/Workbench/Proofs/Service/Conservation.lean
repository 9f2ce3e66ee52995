import Workbench.Proofs.Service.Outbox

namespace Workbench

/-- What a drain returns, and to whom. -/
structure Parcel where
  portal : Option String
  messages : List Value

def Visit.message? : Visit → Option Value
  | .arrival message => some message
  | .drain _ => none

/-- The messages that arrive in visits, in their order. -/
def Visit.arrivals (visits : List Visit) : List Value :=
  visits.filterMap Visit.message?

/-- What the drains among visits return, the first one first. -/
def Seat.parcels (seat : Seat) : List Visit → List Parcel
  | [] => []
  | .arrival message :: later => (seat.visit (.arrival message)).2.parcels later
  | .drain portal :: later =>
    ⟨portal, (seat.visit (.drain portal)).1⟩ :: (seat.visit (.drain portal)).2.parcels later

/-- How the places at which messages arrived are dealt out: some to each parcel and the rest to what still
waits, no place twice, and each time in the order of arrival. -/
structure Dealt (arrived : List Value) (places : List Nat) (parcels : List Parcel) (waiting : List Value)
    (taken : List (List Nat)) (left : List Nat) : Prop where
  once : (taken.flatten ++ left).Perm places
  ordered : ∀ own ∈ left :: taken, own.Pairwise (· < ·)
  returned : List.Forall₂ (fun own parcel => own.map (arrived[·]?) = parcel.messages.map some) taken parcels
  kept : left.map (arrived[·]?) = waiting.map some

namespace Outbox

theorem places_range (arrived : List Value) :
    (List.range arrived.length).map (arrived[·]?) = arrived.map some := by
  refine List.ext_getElem? fun place => ?_
  by_cases inside : place < arrived.length
  · simp [inside]
  · simp [Nat.le_of_not_lt inside]

/-- The places of the messages that are picked out are the places that are picked out. -/
theorem places_filter {arrived outbox : List Value} {places : List Nat}
    (held : places.map (arrived[·]?) = outbox.map some) (pick : Value → Bool) :
    (places.filter fun place => arrived[place]?.any pick).map (arrived[·]?) = (outbox.filter pick).map some := by
  have same := congrArg (List.filter (Option.any pick)) held
  rw [List.filter_map, List.filter_map] at same
  exact same

theorem place_lt {arrived outbox : List Value} {places : List Nat}
    (held : places.map (arrived[·]?) = outbox.map some) : ∀ place ∈ places, place < arrived.length := by
  intro place member
  have found : arrived[place]? ∈ outbox.map some := held ▸ List.mem_map_of_mem member
  obtain ⟨message, _, same⟩ := List.mem_map.mp found
  exact (List.getElem?_eq_some_iff.mp same.symm).1

/-- The places of the messages that are picked out and of those that are not are all places. -/
theorem perm_places {arrived outbox : List Value} {places : List Nat}
    (held : places.map (arrived[·]?) = outbox.map some) (pick : Value → Bool) :
    ((places.filter fun place => arrived[place]?.any pick) ++
      places.filter fun place => arrived[place]?.any fun message => !pick message).Perm places := by
  have others : (places.filter fun place => arrived[place]?.any fun message => !pick message) =
      places.filter fun place => !arrived[place]?.any pick := by
    refine List.filter_congr fun place member => ?_
    rw [List.getElem?_eq_getElem (place_lt held place member), Option.any_some, Option.any_some]
  rw [others]
  exact List.filter_append_perm _ places

/-- What arrives later does not move what has arrived. -/
theorem places_append {arrived outbox : List Value} {places : List Nat}
    (held : places.map (arrived[·]?) = outbox.map some) (later : List Value) :
    places.map ((arrived ++ later)[·]?) = outbox.map some := by
  rw [← held]
  refine List.map_congr_left fun place member => ?_
  exact List.getElem?_append_left (place_lt held place member)

theorem places_flatten {arrived : List Value} {taken : List (List Nat)} {parcels : List Parcel}
    (returned : List.Forall₂ (fun own parcel => own.map (arrived[·]?) = parcel.messages.map some) taken parcels) :
    taken.flatten.map (arrived[·]?) = (parcels.flatMap Parcel.messages).map some := by
  induction returned with
  | nil => rfl
  | cons own _ ih => rw [List.flatten_cons, List.map_append, own, ih, List.flatMap_cons, List.map_append]

end Outbox

namespace Dealt

variable {arrived : List Value} {places : List Nat} {parcels : List Parcel} {waiting : List Value}
  {taken : List (List Nat)} {left : List Nat}

/-- All that has been dealt out is, with multiplicity, what has arrived. -/
theorem perm (dealt : Dealt arrived (List.range arrived.length) parcels waiting taken left) :
    (parcels.flatMap Parcel.messages ++ waiting).Perm arrived := by
  have looked := dealt.once.map (arrived[·]?)
  rw [List.map_append, Outbox.places_flatten dealt.returned, dealt.kept, ← List.map_append,
    Outbox.places_range] at looked
  exact (List.map_perm_map_iff (Option.some_injective Value)).mp looked

end Dealt

namespace Seat

theorem parcels_drain (seat : Seat) (portal : Option String) (later : List Visit) :
    seat.parcels (.drain portal :: later) =
      ⟨portal, seat.outbox.filter (Outbox.isFor portal)⟩ :: (seat.visit (.drain portal)).2.parcels later := by
  rw [parcels, visit, drain_eq_outbox, Outbox.drain, List.partition_eq_filter_filter]

/-- Whatever places the waiting messages have, visits deal these out together with those of the arrivals. -/
theorem exists_dealt (visits : List Visit) (seat : Seat) (arrived : List Value) (places : List Nat)
    (held : places.map (arrived[·]?) = seat.outbox.map some) (ordered : places.Pairwise (· < ·)) :
    ∃ taken left, Dealt (arrived ++ Visit.arrivals visits)
      (places ++ List.range' arrived.length (Visit.arrivals visits).length) (seat.parcels visits)
      (seat.visits visits).outbox taken left := by
  induction visits generalizing seat arrived places with
  | nil =>
    refine ⟨[], places, ?_, ?_, .nil, ?_⟩
    · simp [Visit.arrivals]
    · simpa using ordered
    · exact Outbox.places_append held []
  | cons visit later ih =>
    cases visit with
    | arrival message =>
      -- The newcomer has the first free place.
      have heldNow : (places ++ [arrived.length]).map ((arrived ++ [message])[·]?) =
          (seat.visit (.arrival message)).2.outbox.map some := by
        rw [List.map_append, Outbox.places_append held, outbox_arrival, List.map_append]
        simp
      have orderedNow : (places ++ [arrived.length]).Pairwise (· < ·) := by
        rw [List.pairwise_append]
        refine ⟨ordered, List.pairwise_singleton _ _, ?_⟩
        intro place member last same
        rw [List.mem_singleton.mp same]
        exact Outbox.place_lt held place member
      obtain ⟨taken, left, dealt⟩ := ih _ _ _ heldNow orderedNow
      rw [List.append_assoc, List.append_assoc, List.length_append] at dealt
      exact ⟨taken, left, dealt⟩
    | drain portal =>
      have own := Outbox.places_filter held (Outbox.isFor portal)
      have rest := Outbox.places_filter held fun message => !Outbox.isFor portal message
      have outbox : (seat.visit (.drain portal)).2.outbox =
          seat.outbox.filter fun message => !Outbox.isFor portal message := by
        rw [outbox_drain, Outbox.drain, List.partition_eq_filter_filter]
        rfl
      obtain ⟨taken, left, dealt⟩ := ih _ arrived _ (outbox ▸ rest) (ordered.filter _)
      refine ⟨(places.filter fun place => arrived[place]?.any (Outbox.isFor portal)) :: taken, left, ?_, ?_, ?_,
        dealt.kept⟩
      · rw [List.flatten_cons, List.append_assoc]
        refine (dealt.once.append_left _).trans ?_
        rw [← List.append_assoc]
        exact (Outbox.perm_places held _).append_right _
      · intro some member
        rcases List.mem_cons.mp member with same | member
        · exact dealt.ordered some (same ▸ List.mem_cons_self)
        · rcases List.mem_cons.mp member with same | member
          · exact same ▸ ordered.filter _
          · exact dealt.ordered some (List.mem_cons_of_mem _ member)
      · rw [parcels_drain]
        exact .cons (Outbox.places_append own _) dealt.returned

/-- A message whose portal field names a portal is returned to that portal, or to one who gives no name. -/
theorem named_of_mem_parcels {visits : List Visit} {seat : Seat} {parcel : Parcel}
    (member : parcel ∈ seat.parcels visits) {message : Value} (returned : message ∈ parcel.messages) {name : String}
    (named : message.member? "portal" = some (.text name)) : parcel.portal = none ∨ parcel.portal = some name := by
  induction visits generalizing seat with
  | nil => cases member
  | cons visit later ih =>
    cases visit with
    | arrival other => exact ih member
    | drain portal =>
      rw [parcels_drain] at member
      rcases List.mem_cons.mp member with rfl | member
      · cases portal with
        | none => exact Or.inl rfl
        | some asked =>
          have own := (List.mem_filter.mp returned).2
          simp only [Outbox.isFor, Outbox.addressee, named, Option.getD_some, reduceCtorEq, decide_false,
            Bool.false_or, decide_eq_true_eq, Value.text.injEq] at own
          exact Or.inr (congrArg some own.symm)
      · exact ih member

/-- Messages are neither lost nor repeated. Each drain returns what it does in the order of arrival, what it does
not return waits in that order, and the places of arrival are dealt out once; what names a portal in its portal
field is returned to that portal alone or to one who gives no name, and only what names another than the portal that
asks stays behind. -/
theorem messages_conserved (seat : Seat) (visits : List Visit) :
    (∃ taken left, Dealt (seat.outbox ++ Visit.arrivals visits)
      (List.range (seat.outbox ++ Visit.arrivals visits).length) (seat.parcels visits) (seat.visits visits).outbox
      taken left) ∧
      ((seat.parcels visits).flatMap Parcel.messages ++ (seat.visits visits).outbox).Perm
        (seat.outbox ++ Visit.arrivals visits) ∧
      (∀ parcel ∈ seat.parcels visits, ∀ message ∈ parcel.messages, ∀ name,
        message.member? "portal" = some (.text name) → parcel.portal = none ∨ parcel.portal = some name) ∧
      ∀ portal, ∀ message ∈ (seat.visits (visits ++ [.drain portal])).outbox, ∃ asked named,
        portal = some asked ∧ message.member? "portal" = some named ∧ named ≠ .null ∧ named ≠ .text asked := by
  obtain ⟨taken, left, dealt⟩ :=
    exists_dealt visits seat seat.outbox _ (Outbox.places_range _) List.pairwise_lt_range
  have places : List.range seat.outbox.length ++
      List.range' seat.outbox.length (Visit.arrivals visits).length =
        List.range (seat.outbox ++ Visit.arrivals visits).length := by
    have joined := @List.range'_append_1 0 seat.outbox.length (Visit.arrivals visits).length
    rwa [Nat.zero_add, ← List.range_eq_range', ← List.range_eq_range', ← List.length_append] at joined
  rw [places] at dealt
  refine ⟨⟨taken, left, dealt⟩, dealt.perm, ?_, ?_⟩
  · intro parcel member message returned name named
    exact named_of_mem_parcels member returned named
  · intro portal message member
    rw [visits_append] at member
    exact Outbox.named_of_stays (Outbox.mem_kept.mp member).2

end Seat

end Workbench
