import Workbench.Proofs.Catalog.Coverage
import Workbench.Proofs.Session.Serve
import Workbench.Proofs.Session.Start

namespace Workbench.Session

/-- While a session changes by operations only, its kernel and the metrics of its state stay. -/
theorem metrics_of_run {first exchange : Exchange Session} {past : List (Moment Session)}
    (run : Run authority Operates first past exchange) :
    exchange.state.source.kernel = first.state.source.kernel ∧
      Fields.keys exchange.state.source.state = Fields.keys first.state.source.state := by
  refine run.invariant (fun exchange => exchange.state.source.kernel = first.state.source.kernel ∧
    Fields.keys exchange.state.source.state = Fields.keys first.state.source.state) ⟨rfl, rfl⟩ ?_
  rintro moment operates ⟨kernel, keys⟩
  obtain ⟨operation, same⟩ := source_operates operates
  rw [Moment.after] at same
  rw [same, kernel_after, keys_after]
  exact ⟨kernel, keys⟩

/-- A running session has the metrics that it began with, in their order, and among them those of every
change of every command that a line may resolve to. So a change of a command always finds its metric, also
after the changes before it. -/
theorem metrics_stay {store : Store} {sources : Sources} {now : String} {session : Session}
    {notices : List Notice} {first exchange : Exchange Session} {past : List (Moment Session)}
    (started : start store sources now = .ok (session, notices)) (opened : first.state.source = session)
    (run : Run authority Operates first past exchange) :
    let metrics := Fields.keys (State.initial session.kernel.definitions session.kernel.catalog)
    let current := exchange.state.source
    current.kernel = session.kernel ∧ Fields.keys current.state = metrics ∧
      ∀ line draws resolution left,
        Resolution.resolve session.kernel.catalog line draws = (some resolution, left) →
          (∀ change ∈ resolution.command.impact.changes, change.metric ∈ metrics) ∧
          ∀ params before change rest middle,
            resolution.command.impact.changes = before ++ change :: rest →
              State.applyAll params current.state before = .ok middle →
                Fields.has middle change.metric = true := by
  intro metrics current
  obtain ⟨kernel, keys⟩ := metrics_of_run run
  rw [opened] at kernel keys
  have same : Fields.keys current.state = metrics := by
    rw [keys, (begun_of_start started).state]
  refine ⟨kernel, same, ?_⟩
  intro line draws resolution left resolved
  obtain ⟨catalog, loaded, member⟩ := Resolution.resolve_mem resolved
  have covered : ∀ change ∈ resolution.command.impact.changes, change.metric ∈ metrics := by
    intro change own
    have known : change ∈ catalog.changes :=
      List.mem_flatMap.mpr ⟨resolution.command, member, own⟩
    simp only [metrics, loaded]
    exact State.mem_keys_initial_of_change known
  refine ⟨covered, ?_⟩
  intro params before change rest middle whole applied
  have own : change ∈ resolution.command.impact.changes := by rw [whole]; simp
  rw [Fields.has_iff_mem_keys, State.keys_applyAll applied, same]
  exact covered change own

/-- A command that raises a metric without a definition. -/
def probe : Utility :=
  ⟨"probe", "", none, none, some "probe", [],
    some { changes := [⟨"heat", .increase, some (.int 1), none, none, none, none⟩] }, ""⟩

def probeKernel : Kernel :=
  ⟨some ⟨1, [("tools", [probe])]⟩, [.metric ⟨"dp", "", 0.0, (0.0, 1.0), "", none, none⟩], .null⟩

def probeBootstrap : Value :=
  .object [("SYSTEM_STATE_METRICS", .object [("metrics", .list [.object [("id", .text "dp")]])])]

def probeUtilities : Value :=
  .object [("tools", .object [("utilities", .list [.object [("name", .text "probe"), ("syntax", .text "probe"),
    ("conceptual_impact", .object [("state_changes", .list [.object [
      ("metric", .text "heat"), ("operator", .text "+="), ("value", .int 1)]])])]])])]

def probeStore : Store := [
  (bootstrapPath, .text (Json.render .compact 0 probeBootstrap)),
  (utilitiesPath, .text (Json.render .compact 0 probeUtilities))]

def probeSession : Session := {
  store := probeStore, sources := ⟨none, ⟨[]⟩⟩, kernel := probeKernel
  state := State.initial probeKernel.definitions probeKernel.catalog
  histories := historyKeys.map fun key => (key, [])
  events := [], log := [⟨"09:00", "session", "Kernel online."⟩], lastAction := "", now := "09:00" }

theorem parse_probeBootstrap : Json.parse (Json.render .compact 0 probeBootstrap) = .ok probeBootstrap := by
  cbv

theorem parse_probeUtilities : Json.parse (Json.render .compact 0 probeUtilities) = .ok probeUtilities := by
  cbv

theorem start_probeStore :
    start probeStore ⟨none, ⟨[]⟩⟩ "09:00" = .ok (probeSession, [State.undefinedNotice "heat"]) := by
  have bootstrapText : Store.readText probeStore bootstrapPath =
      .ok (some (Json.render .compact 0 probeBootstrap)) := rfl
  have utilitiesText : Store.readText probeStore utilitiesPath =
      .ok (some (Json.render .compact 0 probeUtilities)) := rfl
  have read : Store.readJson probeStore bootstrapPath = .ok probeBootstrap := by
    simp only [Store.readJson, bootstrapText, parse_probeBootstrap, Except.mapError]
  have found : catalogOf probeStore = .ok probeKernel.catalog := by
    simp only [catalogOf, utilitiesText, Catalog.load, Json.read, Json.parseText, parse_probeUtilities,
      Except.mapError]
    rfl
  have present : Fields.has probeStore bootstrapPath = true := rfl
  simp only [start, present, read, found, Except.mapError]
  rfl

theorem metrics_stay_probe :
    let next := probeSession.after (.command (some "probe") "Send")
    Fields.keys next.state = ["dp", "heat"] ∧ Fields.has next.state "heat" = true := by
  intro next
  have run : Run authority Operates (Exchange.make "lab" probeSession []) _ _ :=
    .next (.change next) .start fun session same => ⟨.command (some "probe") "Send", by cases same; rfl⟩
  obtain ⟨_, keys, commands⟩ := metrics_stay start_probeStore rfl run
  have resolved : Resolution.resolve probeKernel.catalog "probe" ⟨[]⟩ =
      (some ⟨probe, ⟨none, "probe", [], probe.impact.getD {}⟩, .ok []⟩, ⟨[]⟩) := rfl
  exact ⟨keys, (commands "probe" ⟨[]⟩ _ _ resolved).2 [] [] _ [] _ rfl rfl⟩

end Workbench.Session
