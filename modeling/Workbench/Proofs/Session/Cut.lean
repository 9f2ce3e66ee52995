import Workbench.Proofs.Session.Crew

namespace Workbench.Session

/-- Whether an instant belongs to the run of a session whose primary alone sends snapshots and responses, and
only those of the session. -/
structure Leads (instant : Instant Session Empty Stage) : Prop where
  unspoken : instant.Unspoken
  own : ∀ snapshot, instant.step = .move (.broadcast (some snapshot)) →
    snapshot = instant.workshop.exchange.state.source.snapshot
  json : instant.workshop.exchange.state.source.IsJson

/-- Whether nothing is under way and no portal has begun. -/
structure Stands (workshop : Workshop Session Empty Stage) : Prop where
  rests : Rests workshop.exchange
  free : workshop.workers = []

theorem Stands.idle {workshop : Workshop Session Empty Stage} (stands : Stands workshop) : workshop.Idle :=
  ⟨stands.rests.quiet.1, stands.rests.quiet.2, stands.free⟩

theorem update_made {instant : Instant Session Empty Stage} (leads : Leads instant) {data : Value} {update : Snapshot}
    (makes : instant.Makes crew data) (read : Message.parse data = .ok (.update update)) :
    update = instant.workshop.exchange.state.source.snapshot ∧ update.plain = .ok update := by
  have made := snapshot_made leads.own makes read
  have plain := (snapshot_isJson leads.json).plain
  cases plain.symm.trans made
  exact ⟨rfl, plain⟩

/-- The last instant at which a portal took over an update, with the instants after and before it. -/
structure Adopted (past : List (Instant Session Empty Stage)) (id : String) (later : List (Instant Session Empty Stage))
    (adoption : Instant Session Empty Stage) (earlier : List (Instant Session Empty Stage)) (data : Value) : Prop where
  whole : past = later ++ adoption :: earlier
  adopts : adoption.Adopts id data
  last : ∀ instant ∈ later, ∀ other, ¬ instant.Adopts id other

/-- The last instant at which a portal accepted a response with a key, with the instants after and before it. -/
structure Accepted (past : List (Instant Session Empty Stage)) (id key : String)
    (later : List (Instant Session Empty Stage)) (receipt : Instant Session Empty Stage)
    (earlier : List (Instant Session Empty Stage)) (data : Value) : Prop where
  whole : past = later ++ receipt :: earlier
  accepts : receipt.Accepts id key data
  last : ∀ instant ∈ later, ∀ other, ¬ instant.Accepts id key other

/-- Whether a copy shows a session as it was when the update was built that the portal took over last. Only a
history that the portal shows may be newer: it is as it was when the last response with it was built. -/
def Cut (past : List (Instant Session Empty Stage)) (id : String) (shown : List String) (copy : Snapshot) : Prop :=
  ∃ later adoption earlier data building, Adopted past id later adoption earlier data ∧
    building ∈ earlier ∧ building.Makes crew data ∧
    let session := building.workshop.exchange.state.source
    copy.state = session.state ∧ copy.log = session.log.map LogEntry.members ∧
      (∀ path, session.Shows path (copy.files.get? path)) ∧
      (∀ key, key ∉ shown → copy.histories.get? key = session.told key) ∧
      ∀ key ∈ shown,
        (∀ instant ∈ later, ∀ other, ¬ instant.Accepts id key other) ∧
            copy.histories.get? key = session.told key ∨
          ∃ newer receipt older response answering, Accepted later id key newer receipt older response ∧
            answering ∈ older ++ adoption :: earlier ∧ answering.Makes crew response ∧
            copy.histories.get? key = (answering.after crew).exchange.state.source.told key

variable {past : List (Instant Session Empty Stage)} {instant : Instant Session Empty Stage} {id : String}
  {shown : List String}

/-- A cut stays one after a moment that brings no update and takes over what a response carries. -/
theorem Cut.next {copy next : Snapshot} (cut : Cut past id shown copy)
    (unadopted : ∀ other, ¬ instant.Adopts id other) (state : next.state = copy.state) (log : next.log = copy.log)
    (files : next.files = copy.files)
    (apart : ∀ key, key ∉ shown → next.histories.get? key = copy.histories.get? key)
    (own : ∀ key ∈ shown,
      (∀ other, ¬ instant.Accepts id key other) ∧ next.histories.get? key = copy.histories.get? key ∨
        ∃ response answering, instant.Accepts id key response ∧ answering ∈ past ∧
          answering.Makes crew response ∧
          next.histories.get? key = (answering.after crew).exchange.state.source.told key) :
    Cut (instant :: past) id shown next := by
  obtain ⟨later, adoption, earlier, data, building, adopted, built, makes, sameState, sameLog, sameFiles, others,
    histories⟩ := cut
  refine ⟨instant :: later, adoption, earlier, data, building, ⟨?_, adopted.adopts, ?_⟩, built, makes,
    state.trans sameState, log.trans sameLog, ?_, ?_, ?_⟩
  · rw [adopted.whole, List.cons_append]
  · exact List.forall_mem_cons.mpr ⟨unadopted, adopted.last⟩
  · rw [files]
    exact sameFiles
  · intro key outside
    rw [apart key outside]
    exact others key outside
  · intro key inside
    rcases own key inside with ⟨unaccepted, same⟩ | ⟨response, answering, accepts, known, answered, same⟩
    · rw [same]
      rcases histories key inside with ⟨none, old⟩ |
        ⟨newer, receipt, older, response, answering, accepted, known, answered, old⟩
      · exact Or.inl ⟨List.forall_mem_cons.mpr ⟨unaccepted, none⟩, old⟩
      · refine Or.inr ⟨instant :: newer, receipt, older, response, answering, ⟨?_, accepted.accepts, ?_⟩, known,
          answered, old⟩
        · rw [accepted.whole, List.cons_append]
        · exact List.forall_mem_cons.mpr ⟨unaccepted, accepted.last⟩
    · rw [adopted.whole] at known
      exact Or.inr ⟨[], instant, later, response, answering, ⟨rfl, accepts, List.forall_mem_nil _⟩, known, answered,
        same⟩

/-- An update of the primary that a portal takes over is a cut of the session at the moment it was built. -/
theorem Cut.adopt {building : Instant Session Empty Stage} (leads : Leads building) (built : building ∈ past)
    {data : Value} {update : Snapshot} (adopts : instant.Adopts id data) (makes : building.Makes crew data)
    (read : Message.parse data = .ok (.update update)) :
    update.plain = .ok update ∧ Cut (instant :: past) id shown update := by
  obtain ⟨same, plain⟩ := update_made leads makes read
  refine ⟨plain, ?_⟩
  subst same
  refine ⟨[], instant, past, data, building, ⟨rfl, adopts, List.forall_mem_nil _⟩, built, makes, rfl, rfl,
    shows_snapshot _, ?_, ?_⟩
  · exact fun key _ => get?_snapshot_histories _ key
  · exact fun key _ => Or.inl ⟨List.forall_mem_nil _, get?_snapshot_histories _ key⟩

/-- Whether a portal is in step or has been. -/
def HasBeenSynced (past : List (Instant Session Empty Stage)) (id : String) (portal : Portal) : Prop :=
  HasSyncedIn (past.map fun instant => instant.workshop.exchange) id portal

/-- A portal that has been in step has a copy, and its copy is a cut. -/
structure Copied (past : List (Instant Session Empty Stage)) (id : String) (portal : Portal) : Prop where
  cut : ∀ copy, portal.snapshot = some copy → Cut past id portal.historyKeys copy
  held : HasBeenSynced past id portal → portal.snapshot.isSome = true

variable {first workshop : Workshop Session Empty Stage} {portal : Portal}

/-- A response of the primary that a portal in step takes over leaves a cut, with the history of the response. -/
theorem Cut.merge {copy : Snapshot} {move : Move Session} (cut : Cut past id portal.historyKeys copy)
    (found : workshop.exchange.state.portals.get? id = some portal) {data : Value}
    (heard : Moment.stimulus? ⟨workshop.exchange, move⟩ = some (id, .hear data)) (synced : portal.phase = .synced)
    {histories : Fields (List (Fields Value))} {addressee : Option String}
    (read : Message.parse data = .ok (.response histories addressee)) {answering : Instant Session Empty Stage}
    (known : answering ∈ past) (makes : answering.Makes crew data) :
    Cut (⟨workshop, .move move⟩ :: past) id portal.historyKeys { copy with
      histories := copy.histories.putAll
        (histories.filter fun history => portal.historyKeys.contains history.1) } := by
  refine cut.next ?_ rfl rfl rfl ?_ ?_
  · rintro other ⟨_, ⟨⟩, _, update, _, again, _, updates⟩
    cases heard.symm.trans again
    cases read.symm.trans updates
  · intro key outside
    refine Fields.get?_putAll_of_notMem fun named => ?_
    obtain ⟨history, member, same⟩ := List.mem_map.mp named
    have inside := (List.mem_filter.mp member).2
    rw [same] at inside
    exact outside (List.contains_iff_mem.mp inside)
  · intro key inside
    by_cases carried : key ∈ histories.keys
    · right
      refine ⟨data, answering, ⟨move, rfl, portal, histories, addressee, found, heard, synced, read, carried⟩, known,
        makes, ?_⟩
      rcases response_made makes read with rfl | ⟨name, history, rfl, told⟩
      · cases carried
      · cases List.mem_singleton.mp carried
        have kept : [(name, history)].filter (fun history => portal.historyKeys.contains history.1) =
            [(name, history)] := List.filter_eq_self.mpr (by simpa using inside)
        rw [kept, told]
        exact (Fields.get?_put copy.histories name name history).trans (if_pos rfl)
    · left
      constructor
      · rintro other ⟨_, ⟨⟩, _, _, _, _, again, _, responds, member⟩
        cases heard.symm.trans again
        cases read.symm.trans responds
        exact carried member
      · refine Fields.get?_putAll_of_notMem fun named => carried ?_
        obtain ⟨history, member, same⟩ := List.mem_map.mp named
        exact List.mem_map.mpr ⟨history, (List.mem_filter.mp member).1, same⟩

theorem Cut.keep {copy : Snapshot} (cut : Cut past id shown copy)
    (unadopted : ∀ other, ¬ instant.Adopts id other) (unaccepted : ∀ key other, ¬ instant.Accepts id key other) :
    Cut (instant :: past) id shown copy :=
  cut.next unadopted rfl rfl rfl (fun _ _ => rfl) fun key _ => Or.inl ⟨unaccepted key, rfl⟩

/-- A portal keeps a cut with whatever it does. -/
theorem Copied.after (stands : Stands first) (run : Workshop.Run crew Leads first past workshop)
    (step : Workshop.Step Session) (found : workshop.exchange.state.portals.get? id = some portal)
    (copied : Copied past id portal) :
    Copied (⟨workshop, step⟩ :: past) id (Instant.reaction ⟨workshop, step⟩ id portal).portal := by
  have unspoken : ∀ instant, Leads instant → instant.Unspoken := fun _ leads => leads.unspoken
  have had : portal.phase = .synced → portal.snapshot.isSome = true := fun synced => copied.held (Or.inl synced)
  rcases Instant.reaction_cases ⟨workshop, step⟩ id portal with
    ⟨still, same⟩ | ⟨move, stimulus, taken, reacting, reacts⟩
  · rw [same]
    refine ⟨fun copy shown => (copied.cut copy shown).keep ?_ ?_, held_after copied.held found (fun some => some) had⟩
    · rintro other ⟨move, taken, _, _, _, heard, _⟩
      exact still move taken _ heard
    · rintro key other ⟨move, taken, _, _, _, _, heard, _⟩
      exact still move taken _ heard
  · have moved : step = .move move := taken
    subst moved
    obtain ⟨keeps, takes⟩ := reacts.holds had
    refine ⟨fun copy shown => ?_, held_after copied.held found keeps takes⟩
    rw [reacts.frame.2.2]
    rcases reacts.copies with ⟨data, update, rfl, wants, read, adopted⟩ |
      ⟨data, histories, addressee, rfl, synced, read, merged⟩ | ⟨same, idle⟩
    · obtain ⟨building, built, makes⟩ := Workshop.makes_of_heard stands.idle unspoken run reacting read rfl
      obtain ⟨plain, cut⟩ := Cut.adopt (run.allowed building built) built
        ⟨move, rfl, portal, update, found, reacting, wants, read⟩ makes read
      cases (adopted update plain).symm.trans shown
      exact cut
    · obtain ⟨answering, known, makes⟩ := Workshop.makes_of_heard stands.idle unspoken run reacting read rfl
      obtain ⟨old, had, rfl⟩ := Option.map_eq_some_iff.mp (merged.symm.trans shown)
      exact (copied.cut old had).merge found reacting synced read known makes
    · refine (copied.cut copy (same.symm.trans shown)).keep ?_ ?_
      · rintro other ⟨_, ⟨⟩, before, update, there, heard, wants, read⟩
        cases found.symm.trans there
        cases reacting.symm.trans heard
        exact Bool.false_ne_true (((idle other rfl).1 update read).symm.trans wants)
      · rintro key other ⟨_, ⟨⟩, before, histories, addressee, there, heard, synced, read, _⟩
        cases found.symm.trans there
        cases reacting.symm.trans heard
        exact (idle other rfl).2 histories addressee read synced

theorem copied_of_run (stands : Stands first) (run : Workshop.Run crew Leads first past workshop)
    (found : workshop.exchange.state.portals.get? id = some portal) : Copied past id portal := by
  induction run generalizing portal with
  | start =>
    obtain ⟨uncopied, unsynced⟩ := stands.rests.portals id portal found
    constructor
    · intro copy shown
      cases uncopied.symm.trans shown
    · rintro (synced | ⟨_, member, _⟩)
      · exact absurd synced unsynced
      · cases member
  | @next past workshop step previous permitted ih =>
    have after := Instant.get?_portals_after crew ⟨workshop, step⟩ id
    rw [Instant.after, found] at after
    obtain ⟨before, there, rfl⟩ := Option.map_eq_some_iff.mp after.symm
    exact (ih there).after stands previous step there

/-- A portal that has been in step holds a copy of the session as it was at one instant, but for the histories
that it shows: each of them may be as new as the last response that carried it. -/
theorem copies_are_cuts (stands : Stands first) (run : Workshop.Run crew Leads first past workshop)
    (found : workshop.exchange.state.portals.get? id = some portal) (synced : HasBeenSynced past id portal) :
    ∃ copy, portal.snapshot = some copy ∧ Cut past id portal.historyKeys copy := by
  have copied := copied_of_run stands run found
  obtain ⟨copy, shown⟩ := Option.isSome_iff_exists.mp (copied.held synced)
  exact ⟨copy, shown, copied.cut copy shown⟩

/-- A bare session and one portal, with nobody at work. -/
def loneShop : Workshop Session Empty Stage :=
  ⟨lone, []⟩

/-- The portal comes into step. Then it asks for an action and for a fresh snapshot, and the snapshot is taken while
the action is under way and is posted after it. -/
def loneWork : List (Workshop.Step Session) :=
  [.move .job, .move .job, .move .job, .post 0, .post 0, .work 0, .work 0, .work 1, .work 0, .move .job, .move .job,
    .move .job, .move .job, .move (.call "metis" .resync), .move (.call "metis" (.act (.text "go"))), .move .job,
    .move .job, .post 0, .work 0, .move .job, .move .job, .move .job, .move (.call "metis" .start),
    .move (.join .primary)]

theorem loneWork_silent : ∀ instant ∈ (loneShop.trace crew loneWork).1,
    (∀ data sender, instant.step ≠ .move (.post data sender)) ∧
      (∀ id message, instant.step ≠ .move (.call id (.post message))) ∧
      ∀ given, instant.step ≠ .move (.broadcast given) := by
  simp [loneWork, Workshop.trace]

theorem copies_are_cuts_lone :
    let run := loneShop.trace crew loneWork
    ∃ portal copy, run.2.exchange.state.portals.get? "metis" = some portal ∧ portal.snapshot = some copy ∧
      Cut run.1 "metis" portal.historyKeys copy := by
  intro run
  have empty : ∀ instant ∈ run.1, (instant.workshop.exchange.state.source.state.isEmpty &&
      instant.workshop.exchange.state.source.store.isEmpty) = true := by
    decide +kernel
  have leads : ∀ instant ∈ run.1, Leads instant := by
    intro instant member
    obtain ⟨unposted, uncalled, unsent⟩ := loneWork_silent instant member
    obtain ⟨state, store⟩ := Bool.and_eq_true_iff.mp (empty instant member)
    refine ⟨?_, fun snapshot step => absurd step (unsent _), ?_, ?_⟩
    · rintro move step
      constructor
      · rintro data sender _ rfl
        exact absurd step (unposted data sender)
      · rintro id message rfl
        exact absurd step (uncalled id message)
    · rw [List.isEmpty_iff.mp state]
      rfl
    · rw [List.isEmpty_iff.mp store]
      exact List.forall_mem_nil _
  have phase : (run.2.exchange.state.portals.get? "metis").map (fun portal => decide (portal.phase = .synced)) =
      some true := by decide +kernel
  obtain ⟨portal, found, synced⟩ := Option.map_eq_some_iff.mp phase
  obtain ⟨copy, shown, cut⟩ := copies_are_cuts ⟨lone_rests, rfl⟩ (Workshop.Run.of_trace leads) found
    (Or.inl (of_decide_eq_true synced))
  exact ⟨portal, copy, found, shown, cut⟩

end Workbench.Session
