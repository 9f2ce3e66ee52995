import Workbench.Proofs.Session.Told
import Workbench.Proofs.Sync.Order

namespace Workbench.Session

/-- Whether a moment belongs to the run of a session that changes from outside by operations only and whose
primary alone sends snapshots and responses, and only those of the session. -/
structure Speaks (moment : Moment Session) : Prop where
  unspoken : moment.Unspoken
  own : ∀ snapshot, moment.move = .broadcast (some snapshot) → snapshot = moment.exchange.state.source.snapshot
  operates : Operates moment

theorem told_say (session : Session) (name : String) (entries : List ChatEntry) {key : String}
    {old : List (Fields Value)} (known : session.told key = some old) :
    ∃ new, (session.say name entries).told key = some new ∧ old <+: new := by
  obtain ⟨history, found, rfl⟩ := Option.map_eq_some_iff.mp known
  by_cases same : name = key
  · subst same
    refine ⟨(history ++ entries).map ChatEntry.members, ?_, ?_⟩
    · simp only [told, say, Fields.get?_put, if_true, Session.history, found, Option.getD_some, Option.map_some]
    · rw [List.map_append]
      exact List.prefix_append _ _
  · refine ⟨history.map ChatEntry.members, ?_, List.prefix_refl _⟩
    simp only [told, say, Fields.get?_put, if_neg same, found, Option.map_some]

theorem histories_command (session : Session) (input : Option String) (operator : String) :
    (session.after (.command input operator)).histories = (session.asked (Text.strip (input.getD ""))).histories ∨
      ∃ entry, (session.after (.command input operator)).histories =
        ((session.asked (Text.strip (input.getD ""))).say "kernel" [entry]).histories := by
  rcases session.command_cases input operator with ⟨fault, _, same⟩ | ⟨turn, events, _, same⟩
  · left
    rw [after, same]
  · generalize (session.turnOn (Text.strip (input.getD "")) operator).sources = sources at same
    obtain ⟨log, store, frame⟩ := complete_frame
      { session.asked (Text.strip (input.getD "")) with sources := sources } turn (Text.strip (input.getD ""))
    rw [after, same, frame]
    exact Or.inr ⟨_, rfl⟩

/-- Every history but that of the shell only grows, whatever happens to the session. -/
theorem told_after (session : Session) (operation : Operation) {key : String} (other : key ≠ "shell")
    {old : List (Fields Value)} (known : session.told key = some old) :
    ∃ new, (session.after operation).told key = some new ∧ old <+: new := by
  cases operation with
  | command input operator =>
    obtain ⟨noted, asked, before⟩ := told_say { session with lastAction := Text.strip (input.getD "") } "kernel"
      [ChatEntry.of .user (Text.strip (input.getD ""))] known
    rcases session.histories_command input operator with same | ⟨entry, same⟩
    · rw [told, same]
      exact ⟨noted, asked, before⟩
    · obtain ⟨new, answered, later⟩ := told_say _ "kernel" [entry] asked
      rw [told, same]
      exact ⟨new, answered, before.trans later⟩
  | shell input =>
    rcases session.shell_cases input with same | ⟨store, entries, same⟩
    · rw [same]
      exact ⟨old, known, List.prefix_refl old⟩
    · rw [same, told, Fields.get?_put, if_neg other.symm]
      exact ⟨old, known, List.prefix_refl old⟩
  | monologue portal =>
    rcases session.monologue_cases portal with ⟨_, same⟩ | ⟨_, entry, sources, _, same⟩
    · simp only [after, same]
      exact ⟨old, known, List.prefix_refl old⟩
    · simp only [after, same]
      exact told_say { session with sources := sources } portal [entry] known
  | snapshot | tree | drain | lend _ | clock _ => exact ⟨old, known, List.prefix_refl old⟩

variable {moment : Moment Session} {key : String}

theorem told_moment (operates : Operates moment) (other : key ≠ "shell") {old : List (Fields Value)}
    (known : moment.exchange.state.source.told key = some old) :
    ∃ new, (moment.after authority).state.source.told key = some new ∧ old <+: new := by
  obtain ⟨operation, same⟩ := source_operates operates
  rw [same]
  exact told_after _ operation other known

theorem histories_posted (speaks : Speaks moment) {data : Value} {update : Snapshot}
    (posted : moment.posted? authority = some data) (read : Message.parse data = .ok (.update update)) :
    update.histories = moment.exchange.state.source.snapshot.histories ∧ update.plain = .ok update := by
  have made := snapshot_posted speaks.own posted read
  have sent := (Snapshot.plain_eq_ok.mp made).2.1
  have whole := Message.plainHistories_of_areJson moment.exchange.state.source.histories_areJson
  exact ⟨Except.ok.inj (sent.symm.trans whole), (Snapshot.isJson_of_plain made).plain⟩

/-- What the primary posts carries a history as it is told before the moment or after it. -/
theorem carried_posted (speaks : Speaks moment) (other : key ≠ "shell") {data : Value}
    {entries whole new : List (Fields Value)} (posted : moment.posted? authority = some data)
    (carries : Message.carried key data = some entries) (known : moment.exchange.state.source.told key = some whole)
    (next : (moment.after authority).state.source.told key = some new) : whole <+: entries ∧ entries <+: new := by
  obtain ⟨grown, again, extends'⟩ := told_moment speaks.operates other known
  cases next.symm.trans again
  unfold Message.carried at carries
  split at carries
  · rename_i update read
    rw [(histories_posted speaks posted read).1, get?_snapshot_histories, known] at carries
    cases carries
    exact ⟨List.prefix_refl _, extends'⟩
  · rename_i histories addressee read
    rcases response_posted posted read with rfl | ⟨portal, history, rfl, told⟩
    · cases carries
    · simp only [Fields.get?] at carries
      split at carries
      · rename_i same
        subst same
        cases carries
        cases next.symm.trans told
        exact ⟨extends', List.prefix_refl _⟩
      · cases carries
  · cases carries

/-- What the jobs of a moment bring is what the primary posts at the moment. -/
theorem posted_of_brought (speaks : Speaks moment) {jobs : List (Job Listener Duty)}
    (own : ∀ job ∈ jobs, ∃ deed, Moment.Origin authority moment deed ∧ deed.Rushes job) {id : String}
    {entries : List (Fields Value)} (member : entries ∈ jobs.filterMap (Job.brings id key)) :
    ∃ data, moment.posted? authority = some data ∧ Message.carried key data = some entries := by
  obtain ⟨job, queued, brings⟩ := List.mem_filterMap.mp member
  obtain ⟨data, rfl, carries⟩ := Job.brings_eq_some.mp brings
  obtain ⟨deed, origin, rushes⟩ := own _ queued
  obtain ⟨message, read, authoritative⟩ := Message.authoritative_of_carried carries
  exact ⟨data, Moment.posted_of_origin speaks.unspoken origin (Or.inl rushes) read authoritative, carries⟩

variable {first exchange : Exchange Session} {past : List (Moment Session)} {id : String} {portal : Portal}

theorem prompt_of_run (rests : Rests first) (run : Run authority Speaks first past exchange) :
    exchange.loop.Prompt := by
  refine run.invariant (fun exchange => exchange.loop.Prompt) ?_ fun moment _ prompt => Moment.prompt_after prompt
  rintro listener data ⟨timer, member, _⟩
  rw [rests.quiet.2] at member
  cases member

/-- A history that the session has at first it always has. -/
theorem told_of_run (other : key ≠ "shell") (known : Fields.has first.state.source.histories key = true)
    (run : Run authority Speaks first past exchange) :
    (∃ whole, exchange.state.source.told key = some whole) ∧
      ∀ moment ∈ past, ∃ whole, moment.exchange.state.source.told key = some whole := by
  induction run with
  | start =>
    obtain ⟨history, found⟩ := Option.isSome_iff_exists.mp known
    exact ⟨⟨_, congrArg (Option.map _) found⟩, List.forall_mem_nil _⟩
  | next move previous speaks ih =>
    obtain ⟨⟨whole, now⟩, before⟩ := ih
    obtain ⟨new, next, _⟩ := told_moment speaks.operates other now
    exact ⟨⟨new, next⟩, List.forall_mem_cons.mpr ⟨⟨whole, now⟩, before⟩⟩

theorem copyOf_merged {next : Portal} {name : String} {history : List (Fields Value)} (key : String)
    (merged : next.snapshot = portal.merged [(name, history)]) :
    next.copyOf key = portal.copyOf key ∨ name = key ∧ next.copyOf key = some history := by
  unfold Portal.merged at merged
  unfold Portal.copyOf
  rw [merged]
  cases portal.snapshot with
  | none => exact Or.inl rfl
  | some copy =>
    simp only [Option.map_some, Option.bind_some]
    by_cases shown : portal.historyKeys.contains name = true
    · have kept : [(name, history)].filter (fun history => portal.historyKeys.contains history.1) =
          [(name, history)] := List.filter_eq_self.mpr (by simpa using shown)
      have one : copy.histories.putAll [(name, history)] = copy.histories.put name history := rfl
      rw [kept, one, Fields.get?_put]
      by_cases same : name = key
      · exact Or.inr ⟨same, if_pos same⟩
      · exact Or.inl (if_neg same)
    · have dropped : [(name, history)].filter (fun history => portal.historyKeys.contains history.1) = [] :=
        List.filter_eq_nil_iff.mpr (by simpa using shown)
      rw [dropped]
      exact Or.inl rfl

/-- A portal keeps a history as it is or takes it over from the message that reaches it. -/
theorem copyOf_reaction (rests : Rests first) (run : Run authority Speaks first past exchange)
    (other : key ≠ "shell") (known : Fields.has first.state.source.histories key = true) (move : Move Session)
    (id : String) (portal : Portal) :
    let next := (Moment.reaction ⟨exchange, move⟩ id portal).portal
    next.copyOf key = portal.copyOf key ∧ next.snapshot.isSome = portal.snapshot.isSome ∨
      ∃ data entries, Moment.job? ⟨exchange, move⟩ = some (.delivery (.portal id) data) ∧
        Message.carried key data = some entries ∧ next.copyOf key = some entries := by
  intro next
  rcases Moment.reaction_cases ⟨exchange, move⟩ id portal with ⟨_, same⟩ | ⟨stimulus, reacting, reacts⟩
  · left
    simp only [next, same]
    exact ⟨rfl, rfl⟩
  · have arrives : ∀ data, stimulus = .hear data →
        Moment.job? ⟨exchange, move⟩ = some (.delivery (.portal id) data) := by
      rintro data rfl
      rcases Moment.stimulus?_eq_some reacting with ⟨_, _, same⟩ | ⟨_, running, _, same⟩ | ⟨_, same⟩ | ⟨_, _, same⟩
      · cases same
      · cases same
        exact running
      · cases same
      · cases same
    rcases reacts.copies with ⟨data, update, rfl, wants, read, taken⟩ |
      ⟨data, histories, addressee, rfl, synced, read, merged⟩ | ⟨same, _⟩
    · -- The snapshot was built at a moment of the past, when the session had the history already.
      obtain ⟨building, built, posted⟩ :=
        posted_of_heard run rests.quiet (fun _ speaks => speaks.unspoken) reacting read rfl
      obtain ⟨own, plain⟩ := histories_posted (run.allowed building built) posted read
      obtain ⟨entries, told⟩ := (told_of_run other known run).2 building built
      have has : update.histories.get? key = some entries := by
        rw [own, get?_snapshot_histories, told]
      refine Or.inr ⟨data, entries, arrives data rfl, ?_, ?_⟩
      · simp only [Message.carried, read, has]
      · simp only [next, Portal.copyOf, taken update plain, Option.bind_some, has]
    · obtain ⟨answering, known, posted⟩ :=
        posted_of_heard run rests.quiet (fun _ speaks => speaks.unspoken) reacting read rfl
      have kept : next.snapshot.isSome = portal.snapshot.isSome := by
        simp only [next, merged, Portal.merged, Option.isSome_map]
      rcases response_posted posted read with rfl | ⟨name, history, rfl, _⟩
      · refine Or.inl ⟨?_, kept⟩
        simp only [next, Portal.copyOf, merged, Portal.merged, List.filter_nil]
        cases portal.snapshot <;> rfl
      · rcases copyOf_merged key merged with same | ⟨rfl, same⟩
        · exact Or.inl ⟨same, kept⟩
        · refine Or.inr ⟨data, history, arrives data rfl, ?_, same⟩
          simp [Message.carried, read, Fields.get?]
    · have copied : next.snapshot = portal.snapshot := same
      refine Or.inl ⟨?_, congrArg Option.isSome copied⟩
      rw [Portal.copyOf, copied, Portal.copyOf]

/-- The versions of a history that a portal has and has still to be brought, the first one first, and what it
would be told now. -/
def versions (exchange : Exchange Session) (id key : String) (portal : Portal) : List (List (Fields Value)) :=
  (portal.copyOf key).toList ++ exchange.loop.queue.filterMap (Job.brings id key) ++
    (exchange.state.source.told key).toList

/-- With what reaches it a portal moves on among the versions. -/
theorem moves_on {next : Portal} (prompt : moment.exchange.loop.Prompt)
    (takes : next.copyOf key = portal.copyOf key ∨ ∃ data entries,
      moment.job? = some (.delivery (.portal id) data) ∧ Message.carried key data = some entries ∧
        next.copyOf key = some entries) :
    List.Sublist ((next.copyOf key).toList ++ moment.ground.queue.filterMap (Job.brings id key))
        ((portal.copyOf key).toList ++ moment.exchange.loop.queue.filterMap (Job.brings id key)) ∧
      (next.copyOf key = portal.copyOf key ∨ ∃ entries, next.copyOf key = some entries ∧
        entries ∈ moment.exchange.loop.queue.filterMap (Job.brings id key)) := by
  rcases Moment.brought_ground prompt id key with ⟨data, running, brought⟩ | ⟨still, brought⟩
  · rw [brought]
    rcases takes with same | ⟨arrived, entries, again, carries, same⟩
    · rw [same]
      exact ⟨(List.sublist_append_right _ _).append_left _, Or.inl rfl⟩
    · cases running.symm.trans again
      rw [same, carries]
      exact ⟨List.sublist_append_right _ _, Or.inr ⟨entries, rfl, List.mem_append_left _ List.mem_cons_self⟩⟩
  · rcases takes with same | ⟨data, _, running, _⟩
    · rw [same, brought]
      exact ⟨List.Sublist.refl _, Or.inl rfl⟩
    · exact absurd running (still data)

/-- The versions stay in order with every moment, and a portal never goes back. -/
theorem versions_after {next : Portal} (speaks : Speaks moment) (other : key ≠ "shell")
    (prompt : moment.exchange.loop.Prompt) {whole : List (Fields Value)}
    (known : moment.exchange.state.source.told key = some whole)
    (takes : next.copyOf key = portal.copyOf key ∨ ∃ data entries,
      moment.job? = some (.delivery (.portal id) data) ∧ Message.carried key data = some entries ∧
        next.copyOf key = some entries)
    (ordered : (versions moment.exchange id key portal).Pairwise (· <+: ·)) :
    (versions (moment.after authority) id key next).Pairwise (· <+: ·) ∧
      ∀ old, portal.copyOf key = some old → ∃ now, next.copyOf key = some now ∧ old <+: now := by
  obtain ⟨new, told, grown⟩ := told_moment speaks.operates other known
  obtain ⟨jobs, queue, own⟩ := moment.queue_after authority
  obtain ⟨kept, moved⟩ := moves_on prompt takes
  rw [versions, known] at ordered
  obtain ⟨front, _, before⟩ := List.pairwise_append.mp ordered
  have between : ∀ entries ∈ jobs.filterMap (Job.brings id key), whole <+: entries ∧ entries <+: new := by
    intro entries member
    obtain ⟨data, posted, carries⟩ := posted_of_brought speaks own member
    exact carried_posted speaks other posted carries known told
  constructor
  · -- All that is queued at one moment is the same message, so only what was there before has an order.
    have equal : (jobs.filterMap (Job.brings id key)).Pairwise (· <+: ·) := by
      refine List.pairwise_of_forall_mem_list ?_
      intro one first two second
      obtain ⟨data, posted, carries⟩ := posted_of_brought speaks own first
      obtain ⟨same, again, also⟩ := posted_of_brought speaks own second
      cases posted.symm.trans again
      cases carries.symm.trans also
      exact List.prefix_refl one
    have back : (jobs.filterMap (Job.brings id key) ++ [new]).Pairwise (· <+: ·) := by
      refine List.pairwise_append.mpr ⟨equal, List.pairwise_singleton _ _, ?_⟩
      intro entries member last same
      rw [List.mem_singleton.mp same]
      exact (between entries member).2
    rw [versions, told, queue, List.filterMap_append, ← List.append_assoc, List.append_assoc]
    refine List.pairwise_append.mpr ⟨front.sublist kept, back, ?_⟩
    intro earlier old later member
    have upTo : earlier <+: whole := before earlier (kept.subset old) whole List.mem_cons_self
    rcases List.mem_append.mp member with queued | last
    · exact upTo.trans (between later queued).1
    · rw [List.mem_singleton.mp last]
      exact upTo.trans grown
  · intro old had
    rcases moved with same | ⟨entries, same, member⟩
    · exact ⟨old, same.trans had, List.prefix_refl old⟩
    · refine ⟨entries, same, (List.pairwise_append.mp front).2.2 old ?_ entries member⟩
      rw [had]
      exact List.mem_cons_self

/-- What holds of a portal in a run: the versions that it has and has still to be brought are in order, it holds
a history once it has been in step, and every history that it has ever held begins the one that it holds. -/
structure Grown (past : List (Moment Session)) (exchange : Exchange Session) (id key : String) (portal : Portal) :
    Prop where
  ordered : (versions exchange id key portal).Pairwise (· <+: ·)
  whole : portal.snapshot.isSome = true → (portal.copyOf key).isSome = true
  held : HasSynced past id portal → portal.snapshot.isSome = true
  earlier : ∀ moment ∈ past, ∀ before, moment.exchange.state.portals.get? id = some before →
    ∀ old, before.copyOf key = some old → ∃ now, portal.copyOf key = some now ∧ old <+: now

theorem Grown.after (rests : Rests first) (run : Run authority Speaks first past exchange) (other : key ≠ "shell")
    (known : Fields.has first.state.source.histories key = true) {move : Move Session}
    (speaks : Speaks ⟨exchange, move⟩) (found : exchange.state.portals.get? id = some portal)
    (grown : Grown past exchange id key portal) :
    Grown (⟨exchange, move⟩ :: past) (exchange.after authority move) id key
      (Moment.reaction ⟨exchange, move⟩ id portal).portal := by
  have reaction := copyOf_reaction rests run other known move id portal
  obtain ⟨whole, told⟩ := (told_of_run other known run).1
  obtain ⟨ordered, later⟩ := versions_after speaks other (prompt_of_run rests run) told
    (reaction.imp_left And.left) grown.ordered
  have had : portal.phase = .synced → portal.snapshot.isSome = true := fun synced => grown.held (Or.inl synced)
  refine ⟨ordered, ?_, ?_, ?_⟩
  · intro holds
    rcases reaction with ⟨same, alike⟩ | ⟨_, entries, _, _, same⟩
    · rw [same]
      exact grown.whole (alike.symm.trans holds)
    · rw [same]
      rfl
  · intro synced
    rcases Moment.reaction_cases ⟨exchange, move⟩ id portal with ⟨_, same⟩ | ⟨stimulus, _, reacts⟩
    · rw [same] at synced ⊢
      exact held_after grown.held found (fun some => some) had synced
    · obtain ⟨keeps, takes⟩ := reacts.holds had
      exact held_after grown.held found keeps takes synced
  · intro moment member before there old had
    rcases List.mem_cons.mp member with rfl | earlier
    · cases found.symm.trans there
      exact later old had
    · obtain ⟨middle, held, upTo⟩ := grown.earlier moment earlier before there old had
      obtain ⟨now, holds, grew⟩ := later middle held
      exact ⟨now, holds, upTo.trans grew⟩

theorem grown_of_run (rests : Rests first) (run : Run authority Speaks first past exchange) (other : key ≠ "shell")
    (known : Fields.has first.state.source.histories key = true)
    (found : exchange.state.portals.get? id = some portal) : Grown past exchange id key portal := by
  induction run generalizing portal with
  | start =>
    obtain ⟨uncopied, unsynced⟩ := rests.portals id portal found
    have empty : portal.copyOf key = none := by rw [Portal.copyOf, uncopied, Option.bind_none]
    refine ⟨?_, ?_, ?_, List.forall_mem_nil _⟩
    · rw [versions, empty, rests.quiet.1]
      cases first.state.source.told key with
      | none => exact .nil
      | some whole => exact List.pairwise_singleton _ whole
    · rw [uncopied]
      rintro ⟨⟩
    · rintro (synced | ⟨_, member, _⟩)
      · exact absurd synced unsynced
      · cases member
  | @next past exchange move previous speaks ih =>
    have after := Moment.get?_portals_after authority ⟨exchange, move⟩ id
    rw [Moment.after, found] at after
    obtain ⟨before, there, rfl⟩ := Option.map_eq_some_iff.mp after.symm
    exact (ih there).after rests previous other known speaks there

/-- Once a portal has been in step, its copy of a history that is never cleared begins the history of the session,
and every copy that it has held before begins the copy that it holds. -/
theorem copies_grow (rests : Rests first) (run : Run authority Speaks first past exchange) (other : key ≠ "shell")
    (known : Fields.has first.state.source.histories key = true)
    (found : exchange.state.portals.get? id = some portal) (synced : HasSynced past id portal) :
    ∃ entries whole, portal.copyOf key = some entries ∧ exchange.state.source.told key = some whole ∧
      entries <+: whole ∧
      ∀ moment ∈ past, ∀ before, moment.exchange.state.portals.get? id = some before →
        ∀ old, before.copyOf key = some old → old <+: entries := by
  have grown := grown_of_run rests run other known found
  obtain ⟨entries, holds⟩ := Option.isSome_iff_exists.mp (grown.whole (grown.held synced))
  obtain ⟨whole, told⟩ := (told_of_run other known run).1
  refine ⟨entries, whole, holds, told, ?_, ?_⟩
  · have ordered := grown.ordered
    rw [versions, holds, told] at ordered
    refine (List.pairwise_append.mp ordered).2.2 entries ?_ whole List.mem_cons_self
    exact List.mem_append_left _ List.mem_cons_self
  · intro moment member before there old had
    obtain ⟨now, again, grew⟩ := grown.earlier moment member before there old had
    cases holds.symm.trans again
    exact grew

theorem copies_grow_lone :
    ∃ portal entries whole, (lone.trace authority loneAct).2.state.portals.get? "metis" = some portal ∧
      portal.copyOf "metis" = some entries ∧
      (lone.trace authority loneAct).2.state.source.told "metis" = some whole ∧ entries <+: whole := by
  have speaks : ∀ moment ∈ (lone.trace authority loneAct).1, Speaks moment := by
    intro moment member
    obtain ⟨unposted, uncalled, unsent, unchanged⟩ := lone_silent moment member
    refine ⟨⟨?_, ?_⟩, ?_, ?_⟩
    · exact fun data sender _ move => absurd move (unposted data sender)
    · exact fun id message move => absurd move (uncalled id message)
    · exact fun snapshot move => absurd move (unsent _)
    · exact fun session move => absurd move (unchanged session)
  have known : Fields.has lone.state.source.histories "metis" = true := by decide
  obtain ⟨portal, found, synced⟩ := lone_synced
  obtain ⟨entries, whole, holds, told, upTo, _⟩ :=
    copies_grow lone_rests (Run.of_trace speaks) (by decide) known found (Or.inl synced)
  exact ⟨portal, entries, whole, found, holds, told, upTo⟩

end Workbench.Session
