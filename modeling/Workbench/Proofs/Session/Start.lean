import Workbench.Proofs.Outcome
import Workbench.Session

namespace Workbench.Session

/-- What a session begins with: the definitions and the catalog that were accepted, the state made of
them, empty histories and one log entry. -/
structure Begun (files : Store) (lent : Sources) (time : String) (session : Session) : Prop where
  store : session.store = files
  sources : session.sources = lent
  definitions : ∃ bootstrap, Store.readJson files bootstrapPath = .ok bootstrap ∧
    Definition.load bootstrap = .ok session.kernel.definitions
  catalog : catalogOf files = .ok session.kernel.catalog
  state : session.state = State.initial session.kernel.definitions session.kernel.catalog
  histories : session.histories = historyKeys.map fun key => (key, [])
  events : session.events = []
  log : session.log = bounded [⟨time, "session", "Kernel online."⟩]
  lastAction : session.lastAction = ""

theorem begun_of_start {files : Store} {lent : Sources} {time : String} {session : Session}
    {notices : List Notice} (started : start files lent time = .ok (session, notices)) :
    Begun files lent time session := by
  unfold start at started
  by_cases present : Fields.has files bootstrapPath = true
  · simp only [present, Bool.not_true, Bool.false_eq_true, if_false] at started
    obtain ⟨bootstrap, read, started⟩ := Except.bind_eq_ok.mp started
    obtain ⟨definitions, loaded, started⟩ := Except.bind_eq_ok.mp started
    obtain ⟨catalog, found, started⟩ := Except.bind_eq_ok.mp started
    obtain ⟨prompt, _, started⟩ := Except.bind_eq_ok.mp started
    obtain ⟨same, _⟩ := Prod.mk.inj (Except.ok.inj started)
    subst same
    exact ⟨rfl, rfl, ⟨bootstrap, Except.mapError_eq_ok.mp read, Except.mapError_eq_ok.mp loaded⟩, found, rfl,
      rfl, rfl, rfl, rfl⟩
  · simp only [present] at started
    cases started

/-- A store that holds a bootstrap and no utilities makes a session without a catalog. -/
theorem start_alone {bootstrap : Value} (parsed : Json.parse (Json.render .compact 0 bootstrap) = .ok bootstrap)
    {definitions : List Definition} (loaded : Definition.load bootstrap = .ok definitions) {prompt : Value}
    (told : promptOf bootstrap = .ok prompt) (sources : Sources) (now : String) :
    let store : Store := [(bootstrapPath, .text (Json.render .compact 0 bootstrap))]
    let session : Session := {
      store := store, sources := sources, kernel := ⟨none, definitions, prompt⟩
      state := State.initial definitions none
      histories := historyKeys.map fun key => (key, [])
      events := [], log := [⟨now, "session", "Kernel online."⟩], lastAction := "", now := now }
    start store sources now = .ok (session, noCatalogNotice :: State.initialNotices definitions none) := by
  intro store session
  have bootstrapText : Store.readText store bootstrapPath = .ok (some (Json.render .compact 0 bootstrap)) := rfl
  have utilitiesText : Store.readText store utilitiesPath = .ok none := rfl
  have read : Store.readJson store bootstrapPath = .ok bootstrap := by
    simp only [Store.readJson, bootstrapText, parsed, Except.mapError]
  have found : catalogOf store = .ok none := by
    simp only [catalogOf, utilitiesText]
  have present : Fields.has store bootstrapPath = true := rfl
  simp only [start, present, read, loaded, found, told, Except.mapError, bind, Except.bind]
  rfl

end Workbench.Session
