import Workbench.Proofs.Session.Cut
import Workbench.Proofs.Session.Growth
import Workbench.Proofs.Sync.Resync

namespace Workbench.Session

/-- Whether the update that the primary posts comes to be at an instant: its snapshot is that of the session as it
is then. -/
structure Builds (instant : Instant Session Empty Stage) (data : Value) : Prop where
  made : instant.Makes crew data
  whole : ∃ update, Message.parse data = .ok (.update update) ∧
    instant.workshop.exchange.state.source.snapshot.plain = .ok update

/-- The sessions that come of one by operations and by stretches of the work for its portals. -/
inductive Becomes (session : Session) : Session → Prop
  | same : Becomes session session
  | operated {later : Session} (operation : Operation) : Becomes session later →
      Becomes session (later.after operation)
  | worked {later : Session} (stage : Stage) : Becomes session later → Becomes session (crew.work stage later).2.1

/-- Whether an instant belongs to the run of a session that changes from outside by operations only and whose primary
alone sends snapshots and responses, and only those of the session. -/
def SpeaksFor (instant : Instant Session Empty Stage) : Prop :=
  ∀ move, instant.step = .move move → Speaks ⟨instant.workshop.exchange, move⟩

theorem SpeaksFor.unspoken {instant : Instant Session Empty Stage} (speaks : SpeaksFor instant) : instant.Unspoken :=
  fun move taken => (speaks move taken).unspoken

theorem builds_of_makes {instant : Instant Session Empty Stage} (speaks : SpeaksFor instant) {data : Value}
    (makes : instant.Makes crew data) (update : Message.isUpdate data = true) : Builds instant data := by
  obtain ⟨snapshot, read⟩ := Message.isUpdate_iff.mp update
  exact ⟨makes, snapshot, read, snapshot_made (fun given taken => (speaks _ taken).own given rfl) makes read⟩

variable {first workshop : Workshop Session Empty Stage} {past later earlier : List (Instant Session Empty Stage)}
  {id : String}

/-- At every instant the session goes through an operation or a stretch of work, or stays as it is. -/
theorem becomes_after {session : Session} (instant : Instant Session Empty Stage) (speaks : SpeaksFor instant)
    (before : session.Becomes instant.workshop.exchange.state.source) :
    session.Becomes (instant.after crew).exchange.state.source := by
  obtain ⟨workshop, step⟩ := instant
  have goes := workshop.goes crew step
  simp only [Instant.after] at before ⊢
  generalize workshop.after crew step = next at goes ⊢
  cases goes with
  | hired queue sets => exact before
  | @moved move free =>
    obtain ⟨operation, same⟩ := source_operates (speaks move rfl).operates
    have moved : (workshop.exchange.after crew.toAuthority move).state.source =
        workshop.exchange.state.source.after operation := same
    rw [moved]
    exact before.operated operation
  | @worked place stage worker source notices found done =>
    have left : source = (crew.work stage workshop.exchange.state.source).2.1 := by rw [done]
    simp only [Assembly.take, left]
    exact before.worked stage
  | posted found replied => exact before
  | rested still => exact before

theorem becomes_of_run (run : Workshop.Run crew SpeaksFor first past workshop) :
    first.exchange.state.source.Becomes workshop.exchange.state.source ∧
      ∀ instant ∈ past, first.exchange.state.source.Becomes instant.workshop.exchange.state.source := by
  induction run with
  | start => exact ⟨.same, List.forall_mem_nil _⟩
  | @next past workshop step previous speaks ih =>
    obtain ⟨now, before⟩ := ih
    exact ⟨becomes_after ⟨workshop, step⟩ speaks now, List.forall_mem_cons.mpr ⟨now, before⟩⟩

/-- What is on its way to a portal has come to be at some instant. -/
theorem builds_of_onTheirWay (stands : Stands first) (run : Workshop.Run crew SpeaksFor first past workshop)
    {data : Value} (member : data ∈ workshop.onTheirWay id) (update : Message.isUpdate data = true) :
    ∃ building ∈ past, Builds building data := by
  have prompt : first.exchange.loop.Prompt := prompt_of_run stands.rests .start
  have unspoken : ∀ instant, SpeaksFor instant → instant.Unspoken := fun _ speaks => speaks.unspoken
  rcases (Workshop.onTheirWay_of_run prompt unspoken run id).2 data member with atFirst | ⟨building, known, makes⟩
  · -- At first nothing is queued and nobody is at work.
    simp only [Workshop.onTheirWay, Exchange.underWay, Workshop.unposted, stands.rests.quiet.1, stands.free,
      List.filterMap_nil, List.append_nil, List.not_mem_nil] at atFirst
  · exact ⟨building, known, builds_of_makes (run.allowed building known) makes update⟩

/-- What comes to be after a portal has asked for a fresh snapshot shows the session as it was at the call or later. -/
theorem builds_of_call {call : Instant Session Empty Stage} (called : call.step = .move (.call id .resync))
    (since : Workshop.Run crew SpeaksFor (call.workshop.after crew call.step) later workshop) {data : Value}
    (update : Message.isUpdate data = true) (made : ∃ building ∈ later, building.Makes crew data) :
    ∃ building ∈ later, Builds building data ∧
      call.workshop.exchange.state.source.Becomes building.workshop.exchange.state.source := by
  obtain ⟨building, member, makes⟩ := made
  have unchanged : (call.workshop.after crew call.step).exchange.state.source =
      call.workshop.exchange.state.source := by
    rw [called]
    exact Moment.source_after crew.toAuthority ⟨call.workshop.exchange, .call id .resync⟩
  refine ⟨building, member, builds_of_makes (since.allowed building member) makes update, ?_⟩
  rw [← unchanged]
  exact (becomes_of_run since).2 building member

/-- The first snapshot that a portal in step takes over after it has asked for a fresh one shows the session as it
was at the call or later, unless it was on its way to the portal at the call, so surely if none was. If updates were
queued for the portal at the call then, as long as the portal listens, it is the oldest of those, and shows the
session as it was before the call. -/
theorem resync_adopts (stands : Stands first) {call : Instant Session Empty Stage}
    (run : Workshop.Run crew SpeaksFor first (later ++ call :: earlier) workshop)
    (called : call.step = .move (.call id .resync)) {portal : Portal}
    (found : call.workshop.exchange.state.portals.get? id = some portal) (synced : portal.phase = .synced)
    (unadopted : ∀ instant ∈ later, ∀ other, ¬ instant.Adopts id other) {step : Workshop.Step Session} {data : Value}
    (adopts : Instant.Adopts ⟨workshop, step⟩ id data) :
    ((∃ building ∈ later, Builds building data ∧
        call.workshop.exchange.state.source.Becomes building.workshop.exchange.state.source) ∨
      data ∈ call.workshop.onTheirWay id ∧ ∃ building ∈ earlier, Builds building data) ∧
    (call.workshop.onTheirWay id = [] → ∃ building ∈ later, Builds building data ∧
      call.workshop.exchange.state.source.Becomes building.workshop.exchange.state.source) ∧
    ∀ oldest rest, call.workshop.exchange.underWay id = oldest :: rest →
      (∀ instant ∈ later, .portal id ∈ instant.workshop.exchange.loop.listeners) →
        data = oldest ∧ ∃ building ∈ earlier, Builds building data := by
  have unspoken : ∀ instant, SpeaksFor instant → instant.Unspoken := fun _ speaks => speaks.unspoken
  have prompt : first.exchange.loop.Prompt := prompt_of_run stands.rests .start
  have update : Message.isUpdate data = true := by
    obtain ⟨_, _, _, update, _, _, _, read⟩ := adopts
    exact Message.isUpdate_iff.mpr ⟨update, read⟩
  obtain ⟨origin, queued⟩ := Workshop.adopted_of_resync prompt unspoken run called found synced unadopted adopts
  obtain ⟨before, speaks, since⟩ := run.split
  have fresh := builds_of_call called since update
  refine ⟨?_, ?_, ?_⟩
  · rcases origin with waits | made
    · exact Or.inr ⟨waits, builds_of_onTheirWay stands before waits update⟩
    · exact Or.inl (fresh made)
  · intro none
    rcases origin with waits | made
    · rw [none] at waits
      cases waits
    · exact fresh made
  · intro oldest rest waiting listens
    have same := queued oldest rest waiting listens
    have waits : data ∈ call.workshop.onTheirWay id := by
      rw [Workshop.onTheirWay, waiting, same]
      exact List.mem_append_left _ List.mem_cons_self
    exact ⟨same, builds_of_onTheirWay stands before waits update⟩

/-- Whether a step is none by which somebody else than the primary might send a snapshot or a response. -/
def Silent (step : Workshop.Step Session) : Prop :=
  (∀ data sender, step ≠ .move (.post data sender)) ∧ (∀ id message, step ≠ .move (.call id (.post message))) ∧
    ∀ given, step ≠ .move (.broadcast given)

theorem speaksFor_of_silent {instant : Instant Session Empty Stage} (silent : Silent instant.step)
    (operates : ∀ session, instant.step = .move (.change session) →
      ∃ operation, session = instant.workshop.exchange.state.source.after operation) : SpeaksFor instant := by
  obtain ⟨unposted, uncalled, unsent⟩ := silent
  intro move taken
  refine ⟨⟨?_, ?_⟩, ?_, ?_⟩
  · rintro data sender _ rfl
    exact absurd taken (unposted data sender)
  · rintro id message rfl
    exact absurd taken (uncalled id message)
  · rintro snapshot rfl
    exact absurd taken (unsent _)
  · rintro session rfl
    exact operates session taken

/-- The portal of a lone session comes into step. -/
def loneBegun : List (Workshop.Step Session) :=
  [.move .job, .move .job, .post 0, .work 0, .move .job, .move .job, .move .job, .move (.call "metis" .start),
    .move (.join .primary)]

/-- It asks for a fresh snapshot, and a worker takes one. -/
def loneAsked : List (Instant Session Empty Stage) × Workshop Session Empty Stage :=
  loneShop.trace crew (.post 0 :: .work 0 :: .move .job :: .move .job :: .move (.call "metis" .resync) :: loneBegun)

theorem loneAsked_speaks : ∀ instant ∈ loneAsked.1, SpeaksFor instant := by
  have silent : ∀ instant ∈ loneAsked.1, Silent instant.step ∧
      ∀ session, instant.step ≠ .move (.change session) := by
    simp [loneAsked, loneBegun, Workshop.trace, Silent]
  intro instant member
  obtain ⟨silent, unchanged⟩ := silent instant member
  exact speaksFor_of_silent silent fun session taken => absurd taken (unchanged session)

theorem resync_adopts_lone :
    ∃ data, Instant.Adopts ⟨loneAsked.2, .move .job⟩ "metis" data ∧ ∃ building ∈ loneAsked.1.take 4,
      Builds building data ∧
        (loneShop.trace crew loneBegun).2.exchange.state.source.Becomes building.workshop.exchange.state.source := by
  have run : Workshop.Run crew SpeaksFor loneShop
      (loneAsked.1.take 4 ++ ⟨(loneShop.trace crew loneBegun).2, .move (.call "metis" .resync)⟩ ::
        (loneShop.trace crew loneBegun).1) loneAsked.2 := Workshop.Run.of_trace loneAsked_speaks
  have phase : ((loneShop.trace crew loneBegun).2.exchange.state.portals.get? "metis").map
      (fun portal => decide (portal.phase = .synced)) = some true := by decide +kernel
  have none : (loneShop.trace crew loneBegun).2.onTheirWay "metis" = [] := by decide +kernel
  have quiet : ∀ instant ∈ loneAsked.1.take 4, (instant.adopted? "metis").isNone = true := by decide +kernel
  have taken : (Instant.adopted? ⟨loneAsked.2, .move .job⟩ "metis").isSome = true := by decide +kernel
  obtain ⟨portal, found, synced⟩ := Option.map_eq_some_iff.mp phase
  obtain ⟨data, adopted⟩ := Option.isSome_iff_exists.mp taken
  have adopts := Instant.adopts_iff.mpr adopted
  have unadopted : ∀ instant ∈ loneAsked.1.take 4, ∀ other, ¬ instant.Adopts "metis" other := by
    intro instant member other adopts
    have nothing := Option.isNone_iff_eq_none.mp (quiet instant member)
    cases nothing.symm.trans (Instant.adopts_iff.mp adopts)
  exact ⟨data, adopts,
    (resync_adopts ⟨lone_rests, rfl⟩ run rfl found (of_decide_eq_true synced) unadopted adopts).2.1 none⟩

/-- A bare session and two portals, with nobody at work. -/
def duo : Workshop Session Empty Stage :=
  ⟨Exchange.make "lab" bare [("metis", .make "metis" ⟨1, 1, none⟩ []), ("pupa", .make "pupa" ⟨1, 1, none⟩ [])], []⟩

/-- The first portal comes into step, then the second one announces itself, and a worker takes a snapshot for it. -/
def duoBegun : List (Workshop.Step Session) :=
  [.work 0, .move .job, .move .job, .move .job, .move .job, .move (.call "pupa" .start), .move .job, .move .job,
    .post 0, .work 0, .move .job, .move .job, .move .job, .move (.call "metis" .start), .move (.join .primary)]

/-- The session goes on before the snapshot is posted. -/
def duoMoved : List (Workshop.Step Session) :=
  .move (.change ((duo.trace crew duoBegun).2.exchange.state.source.after (.monologue "pupa"))) :: duoBegun

/-- The first portal asks for a fresh snapshot then. -/
def duoAsked : List (Workshop.Step Session) :=
  .move .job :: .move .job :: .post 0 :: .move (.call "metis" .resync) :: duoMoved

/-- What the first portal takes over. -/
def duoStale : Instant Session Empty Stage :=
  ⟨(duo.trace crew duoAsked).2, .move .job⟩

theorem duo_stands : Stands duo where
  rests := {
    quiet := ⟨rfl, rfl⟩
    portals := by
      intro id portal found
      simp only [duo, Exchange.make, Fields.get?] at found
      split at found
      · cases found
        exact ⟨rfl, by rintro ⟨⟩⟩
      · split at found
        · cases found
          exact ⟨rfl, by rintro ⟨⟩⟩
        · cases found }
  free := rfl

theorem duo_speaks : ∀ instant ∈ (duo.trace crew duoAsked).1, SpeaksFor instant := by
  have silent : ∀ instant ∈ (duo.trace crew duoAsked).1, Silent instant.step := by
    simp [duoAsked, duoMoved, duoBegun, Workshop.trace, Silent]
  have begun : ∀ instant ∈ (duo.trace crew duoBegun).1, ∀ session, instant.step ≠ .move (.change session) := by
    simp [duoBegun, Workshop.trace]
  have operates : ∀ instant ∈ (duo.trace crew duoAsked).1, ∀ session, instant.step = .move (.change session) →
      ∃ operation, session = instant.workshop.exchange.state.source.after operation := by
    simp only [duoAsked, duoMoved, Workshop.trace, List.forall_mem_cons]
    refine ⟨?_, ?_, ?_, ?_, ?_, ?_⟩
    iterate 4 rintro _ ⟨⟩
    · rintro _ ⟨⟩
      exact ⟨.monologue "pupa", rfl⟩
    · exact fun instant member session step => absurd step (begun instant member session)
  intro instant member
  exact speaksFor_of_silent (silent instant member) (operates instant member)

/-- The second portal has spoken when the first one asks, and yet the snapshot that the first one takes over shows
the second one silent: a worker had taken it before, for the second one. -/
theorem resync_adopts_stale :
    Stands duo ∧ (∀ instant ∈ (duo.trace crew duoAsked).1, SpeaksFor instant) ∧
      (∃ portal, (duo.trace crew duoMoved).2.exchange.state.portals.get? "metis" = some portal ∧
        portal.phase = .synced) ∧
      ∃ data whole, duoStale.Adopts "metis" data ∧ Message.carried "pupa" data = some [] ∧
        (duo.trace crew duoMoved).2.exchange.state.source.told "pupa" = some whole ∧ whole ≠ [] := by
  have phase : ((duo.trace crew duoMoved).2.exchange.state.portals.get? "metis").map
      (fun portal => decide (portal.phase = .synced)) = some true := by decide +kernel
  have spoken : ((duo.trace crew duoMoved).2.exchange.state.source.told "pupa").map List.length = some 1 := by
    decide +kernel
  have taken : (duoStale.adopted? "metis").map (Message.carried "pupa") = some (some []) := by decide +kernel
  obtain ⟨portal, found, synced⟩ := Option.map_eq_some_iff.mp phase
  obtain ⟨whole, told, length⟩ := Option.map_eq_some_iff.mp spoken
  obtain ⟨data, adopted, carries⟩ := Option.map_eq_some_iff.mp taken
  refine ⟨duo_stands, duo_speaks, ⟨portal, found, of_decide_eq_true synced⟩, data, whole,
    Instant.adopts_iff.mpr adopted, carries, told, ?_⟩
  rintro rfl
  cases length

end Workbench.Session
