import Workbench.Proofs.Session.Told
import Workbench.Proofs.Sync.Workshop

namespace Workbench

/-- A stretch of work leaves the source as it leaves it. -/
theorem Instant.source_worked {σ ε τ : Type} {crew : Crew σ ε τ} {instant : Instant σ ε τ} {place : Nat} {stage : τ}
    (step : instant.step = .work place) (found : instant.workshop.workers[place]? = some (.busy stage)) :
    (instant.after crew).exchange.state.source = (crew.work stage instant.workshop.exchange.state.source).2.1 := by
  simp only [after, step, Workshop.after, Workshop.work, found, Assembly.take]

namespace Session

/-- The histories of an action are the one of the portal, as it is told. -/
def spoken (portal : String) (told : List ChatEntry × Session × List Notice) :
    Except String Value × Session × List Notice :=
  (.ok (.object [(portal, .list (told.1.map ChatEntry.toValue))]), told.2)

theorem act_of_known (session : Session) {portal : String} (known : portals.contains portal = true)
    (payload : String) : authority.act portal payload session =
      let (answer, sources) := session.reflect portal
      spoken portal ({ session with sources := sources }.utter portal answer) := by
  simp only [authority, monologue, known, if_true, spoken]

theorem act_of_unknown (session : Session) {portal : String} (unknown : ¬ portals.contains portal = true)
    (payload : String) : authority.act portal payload session =
      (.error (UnknownPortal.mk portal).message, session, []) := by
  simp only [authority, monologue, if_neg unknown]

theorem finishes_answer (session : Session) (portal : String) (answer : Except MonologueFault String) :
    crew.Finishes (.answer portal answer) session
      (.action portal (spoken portal (session.utter portal answer)).1, (session.utter portal answer).2) :=
  .last rfl

/-- A monologue in stretches is a monologue, if nothing happens between them. -/
theorem crew_whole : crew.Whole := by
  intro chore session
  cases chore with
  | snapshot => exact .last rfl
  | action portal payload =>
    have acted : (Chore.action portal payload).perform crew.toAuthority session =
        (.action portal (authority.act portal payload session).1, (authority.act portal payload session).2) := rfl
    rw [acted]
    by_cases known : portals.contains portal = true
    · rw [session.act_of_known known, reflect]
      cases prepared : session.brief portal with
      | error fault =>
        have worked : crew.work (.chore (.action portal payload)) session =
            (.busy (.answer portal (.error fault)), session, []) := by
          simp only [crew, known, if_true, prepared]
        exact .next worked (session.finishes_answer portal _)
      | ok brief =>
        have worked : crew.work (.chore (.action portal payload)) session =
            (.busy (.brief portal brief), session, []) := by
          simp only [crew, known, if_true, prepared]
        have consulted : crew.work (.brief portal brief) session =
            (.busy (.answer portal (consult portal brief session.sources).1),
              { session with sources := (consult portal brief session.sources).2 }, []) := rfl
        exact .next worked (.next consulted (finishes_answer _ portal _))
    · rw [session.act_of_unknown known]
      refine .last ?_
      simp only [crew, if_neg known]

/-- What a session and its portals come to when every monologue is held in one go, they can come to as well when
others may do something while the model thinks. -/
theorem exists_afterAll_of_run {allowed : Moment Session → Prop} {first exchange : Exchange Session}
    {past : List (Moment Session)} (run : Run authority allowed first past exchange) :
    ∃ steps, Workshop.afterAll crew ⟨first, []⟩ steps = ⟨exchange, []⟩ :=
  Workshop.exists_afterAll_of_run crew_whole run []

/-- What a chore comes to: the snapshot of the session, a refusal, or the history of a portal that has spoken. -/
theorem done_cases {stage : Stage} {session : Session} {yield : Yield Empty}
    (done : (crew.work stage session).1 = .done yield) :
    yield = .snapshot (.ok session.snapshot) ∨ (∃ portal text, yield = .action portal (.error text)) ∨
      ∃ portal answer, stage = .answer portal answer ∧
        yield = .action portal (spoken portal (session.utter portal answer)).1 := by
  cases stage with
  | chore chore =>
    cases chore with
    | snapshot =>
      cases done
      exact Or.inl rfl
    | action portal payload =>
      simp only [crew] at done
      split at done
      · split at done <;> cases done
      · cases done
        exact Or.inr (Or.inl ⟨portal, _, rfl⟩)
  | brief portal brief => cases done
  | answer portal answer =>
    cases done
    exact Or.inr (Or.inr ⟨portal, answer, rfl, rfl⟩)

/-- The history of a portal that has spoken is the one that the session has then. -/
theorem told_utter (session : Session) (portal : String) (answer : Except MonologueFault String) :
    (session.utter portal answer).2.1.told portal = some ((session.utter portal answer).1.map ChatEntry.members) := by
  obtain ⟨entry, entries, next⟩ := session.utter_cases portal answer
  rw [entries, next]
  simp only [told, record, say, Fields.get?_put, if_true, Option.map_some]

variable {instant : Instant Session Empty Stage} {data : Value}

/-- An update of the primary is the snapshot of the session at the instant that it comes to be. -/
theorem snapshot_made
    (own : ∀ snapshot, instant.step = .move (.broadcast (some snapshot)) →
      snapshot = instant.workshop.exchange.state.source.snapshot)
    (makes : instant.Makes crew data) {update : Snapshot} (read : Message.parse data = .ok (.update update)) :
    instant.workshop.exchange.state.source.snapshot.plain = .ok update := by
  have whole : (Message.update instant.workshop.exchange.state.source.snapshot).dump = .ok data := by
    cases makes with
    | @sent given snapshot step source dumped =>
      rcases source with rfl | taken
      · rw [← own snapshot step]
        exact dumped
      · cases taken
        exact dumped
    | worked step found done answered =>
      rcases done_cases done with rfl | ⟨portal, text, rfl⟩ | ⟨portal, answer, _, rfl⟩
      · rcases Yield.answer_eq_ok answered with ⟨snapshot, same, dumped⟩ | ⟨_, _, _, same, _⟩
        · cases same
          exact dumped
        · cases same
      all_goals
        rcases Yield.answer_eq_ok answered with ⟨_, same, _⟩ | ⟨_, _, _, _, _, dumped⟩
        · cases same
        · obtain ⟨_, _, same⟩ := Message.parse_response dumped
          cases read.symm.trans same
  obtain ⟨arrived, made, same⟩ := Message.parse_update whole
  cases read.symm.trans same
  exact made

/-- A response of the primary carries nothing, or the history of a portal as it is once the portal has spoken. -/
theorem response_made (makes : instant.Makes crew data) {histories : Fields (List (Fields Value))}
    {addressee : Option String} (read : Message.parse data = .ok (.response histories addressee)) :
    histories = [] ∨ ∃ portal history, histories = [(portal, history)] ∧
      (instant.after crew).exchange.state.source.told portal = some history := by
  cases makes with
  | sent step source dumped =>
    obtain ⟨_, _, same⟩ := Message.parse_update dumped
    cases read.symm.trans same
  | @worked place stage yield step found done answered =>
    rcases Yield.answer_eq_ok answered with ⟨_, _, dumped⟩ | ⟨name, outcome, entries, same, valid, dumped⟩
    · obtain ⟨_, _, same⟩ := Message.parse_update dumped
      cases read.symm.trans same
    · obtain ⟨arrived, made, sent⟩ := Message.parse_response dumped
      cases read.symm.trans sent
      rcases done_cases done with rfl | ⟨portal, text, rfl⟩ | ⟨portal, answer, rfl, rfl⟩
      · cases same
      · cases same
        cases valid
        cases made
        exact Or.inl rfl
      · cases same
        refine Or.inr ⟨_, _, sent_history valid made, ?_⟩
        rw [instant.source_worked step found]
        exact told_utter _ _ answer

end Session

end Workbench
