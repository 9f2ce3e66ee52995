import Workbench.Proofs.Fields
import Workbench.Proofs.Session.Serve

namespace Workbench.Session

/-- Whether nothing changes a session from outside but what its narrator answers, its draws and the time.
Portals and strangers may post, call, join and leave as they like. -/
def Lends (moment : Moment Session) : Prop :=
  ∀ session, moment.move = .change session →
    (∃ sources, session = { moment.exchange.state.source with sources := sources }) ∨
      ∃ now, session = { moment.exchange.state.source with now := now }

/-- The portals whose requests the primary has answered, the first one first. -/
def served (past : List (Moment Session)) : List String :=
  past.reverse.filterMap fun moment => moment.served?.map Prod.fst

/-- What portals may do to a session by requests: the histories of the portals that exist grow by one entry
for each of their requests, and the log by one record for each of these entries. -/
structure Extends (old new : Session) (requests : List String) : Prop where
  kernel : new.kernel = old.kernel
  state : new.state = old.state
  store : new.store = old.store
  lastAction : new.lastAction = old.lastAction
  events : new.events = old.events
  others : ∀ key, portals.contains key = false → new.histories.get? key = old.histories.get? key
  grown : ∀ portal, portals.contains portal = true → ∃ entries,
    new.history portal = old.history portal ++ entries ∧ entries.length = requests.count portal
  log : ∃ records, records.map (fun entry => (entry.kind, entry.text)) =
      (requests.filter portals.contains).map (fun portal => (portal, "monologue")) ∧
    new.log = if records = [] then old.log else bounded (old.log ++ records)

theorem served_cons (moment : Moment Session) (past : List (Moment Session)) :
    served (moment :: past) = served past ++ (moment.served?.map Prod.fst).toList := by
  simp only [served, List.reverse_cons, List.filterMap_append, List.filterMap_cons, List.filterMap_nil]
  cases moment.served? <;> rfl

theorem bounded_append (front back : List LogEntry) : bounded (bounded front ++ back) = bounded (front ++ back) := by
  have cut : front.length - logLimit ≤ front.length := Nat.sub_le ..
  have total : front.length - logLimit + (((front ++ back).drop (front.length - logLimit)).length - logLimit) =
      (front ++ back).length - logLimit := by
    simp only [List.length_drop, List.length_append]
    omega
  simp only [bounded]
  rw [← List.drop_append_of_le_length cut, List.drop_drop, total]

namespace Extends

variable {old new : Session} {requests : List String}

theorem refl (session : Session) : Extends session session [] where
  kernel := rfl
  state := rfl
  store := rfl
  lastAction := rfl
  events := rfl
  others := fun _ _ => rfl
  grown := fun _ _ => ⟨[], (List.append_nil _).symm, rfl⟩
  log := ⟨[], rfl, rfl⟩

theorem lend (extended : Extends old new requests) (sources : Sources) :
    Extends old { new with sources := sources } requests :=
  { extended with }

theorem clock (extended : Extends old new requests) (now : String) :
    Extends old { new with now := now } requests :=
  { extended with }

/-- A request of a portal that does not exist leaves no trace. -/
theorem refused (extended : Extends old new requests) {portal : String}
    (unknown : portals.contains portal = false) : Extends old new (requests ++ [portal]) := by
  refine { extended with grown := ?_, log := ?_ }
  · intro name known
    obtain ⟨entries, grown, counted⟩ := extended.grown name known
    have differs : portal ≠ name := by
      rintro rfl
      rw [unknown] at known
      cases known
    refine ⟨entries, grown, ?_⟩
    rw [List.count_append, List.count_singleton, if_neg (by simpa using differs), counted, Nat.add_zero]
  · rw [List.filter_append]
    simpa only [List.filter_cons, unknown, Bool.false_eq_true, if_false, List.filter_nil, List.append_nil]
      using extended.log

/-- A request of a portal that exists leaves one entry and one record. -/
theorem spoken (extended : Extends old new requests) {portal : String} (known : portals.contains portal = true)
    (entry : ChatEntry) (sources : Sources) :
    Extends old (({ new with sources := sources }.say portal [entry]).record portal "monologue")
      (requests ++ [portal]) where
  kernel := extended.kernel
  state := extended.state
  store := extended.store
  lastAction := extended.lastAction
  events := extended.events
  others := by
    intro key unknown
    have differs : portal ≠ key := by
      rintro rfl
      rw [unknown] at known
      cases known
    simp only [record, say]
    rw [Fields.get?_put, if_neg differs]
    exact extended.others key unknown
  grown := by
    intro name named
    obtain ⟨entries, grown, counted⟩ := extended.grown name named
    by_cases same : portal = name
    · subst same
      refine ⟨entries ++ [entry], ?_, ?_⟩
      · rw [← List.append_assoc, ← grown]
        simp only [history, record, say, Fields.get?_put, if_true, Option.getD_some]
      · rw [List.length_append, List.count_append, counted, List.count_singleton_self, List.length_singleton]
    · refine ⟨entries, ?_, ?_⟩
      · rw [← grown]
        simp only [history, record, say, Fields.get?_put, if_neg same]
      · rw [List.count_append, List.count_singleton, if_neg (by simpa using same), counted, Nat.add_zero]
  log := by
    obtain ⟨records, named, kept⟩ := extended.log
    refine ⟨records ++ [⟨new.now, portal, "monologue"⟩], ?_, ?_⟩
    · rw [List.map_append, named, List.filter_append, List.map_append]
      simp only [List.filter_cons, known, if_true, List.filter_nil, List.map_cons, List.map_nil]
    · rw [if_neg (List.append_ne_nil_of_right_ne_nil records (by simp))]
      simp only [record, say, kept]
      by_cases none : records = []
      · rw [if_pos none, none, List.nil_append]
      · rw [if_neg none, bounded_append, List.append_assoc]

theorem monologue (extended : Extends old new requests) (portal : String) :
    Extends old (new.after (.monologue portal)) (requests ++ [portal]) := by
  rcases new.monologue_cases portal with ⟨unknown, same⟩ | ⟨known, entry, sources, _, same⟩
  · simp only [after, same]
    exact extended.refused unknown
  · simp only [after, same]
    exact extended.spoken known entry sources

end Extends

/-- Whatever is posted on the channel of a session and whatever the narrator does, the portals extend their
own histories and the log, once for each request that is answered, and write nothing else. -/
theorem portals_extend {first exchange : Exchange Session} {past : List (Moment Session)}
    (run : Run authority Lends first past exchange) :
    Extends first.state.source exchange.state.source (served past) := by
  induction run with
  | start => exact Extends.refl _
  | @next past exchange move previous lends ih =>
    rw [served_cons]
    by_cases changed : ∃ session, move = .change session
    · obtain ⟨session, rfl⟩ := changed
      have nobody : Moment.served? ⟨exchange, .change session⟩ = none := rfl
      rw [nobody, Option.map_none, Option.toList_none, List.append_nil]
      rcases lends session rfl with ⟨sources, same⟩ | ⟨now, same⟩
      · simp only [Exchange.after, same]
        exact ih.lend sources
      · simp only [Exchange.after, same]
        exact ih.clock now
    · have unchanged : ∀ session, move ≠ .change session := fun session same => changed ⟨session, same⟩
      have step := @source_served ⟨exchange, move⟩ unchanged
      rw [Moment.after] at step
      rw [step]
      cases Moment.served? ⟨exchange, move⟩ with
      | none => simpa using ih
      | some request => simpa using ih.monologue request.1

/-- The primary joins, somebody posts a request in nobody's name, and it is delivered and answered. -/
def bareRequest : List (Move Session) :=
  [.job, .job, .post (.object [("type", .text "ACTION_REQUEST"), ("payload", .text "go")]) none, .join .primary]

theorem portals_extend_bare :
    let run := (Exchange.make "lab" bare []).trace authority bareRequest
    served run.1 = ["metis"] ∧ Extends bare run.2.state.source ["metis"] := by
  intro run
  have lends : ∀ moment ∈ run.1, Lends moment := by
    simp [run, bareRequest, Exchange.trace, Lends]
  have extended := portals_extend (Run.of_trace lends)
  have asked : served run.1 = ["metis"] := by rfl
  rw [asked] at extended
  exact ⟨asked, extended⟩

end Workbench.Session
