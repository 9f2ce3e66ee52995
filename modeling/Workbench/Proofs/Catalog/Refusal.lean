import Workbench.Catalog.Load
import Workbench.Proofs.Json.Limit
import Workbench.Proofs.Outcome
import Workbench.Proofs.Schema

namespace Workbench

namespace Definition

/-- What a bootstrap lists under a name of a group. -/
def listed (value : Value) (group name : String) : Except DefinitionFault Value :=
  memberOr (.object []) value group >>= fun inner => memberOr (.list []) inner name

/-- The definitions of two lists of entries. -/
def ofEntries (metrics states : Value) : Except DefinitionFault (List Definition) := do
  let metrics ← entriesOf Schema.metricDefinition metrics
  let states ← entriesOf Schema.qualitativeDefinition states
  let definitions := metrics.map Definition.metric ++ states.map Definition.qualitative
  match firstDuplicate? [] (definitions.map Definition.id) with
  | some id => throw (.duplicate id)
  | none => return definitions

theorem mem_checkEntries {α : Type} {check : Fields Value → Checked α} {items : List Value} {entries : List α}
    {entry : α} (taken : checkEntries check items = .ok entries) (member : entry ∈ entries) :
    ∃ members, .object members ∈ items ∧ check members = .valid entry := by
  induction items generalizing entries with
  | nil =>
    cases taken
    cases member
  | cons item rest ih =>
    cases item with
    | object members =>
      rw [checkEntries] at taken
      cases checked : check members with
      | invalid failures =>
        rw [checked] at taken
        cases taken
      | valid first =>
        rw [checked] at taken
        obtain ⟨others, later, rfl⟩ := Except.map_eq_ok.mp taken
        rcases List.mem_cons.mp member with rfl | member
        · exact ⟨members, List.mem_cons_self, checked⟩
        · obtain ⟨source, among, read⟩ := ih later member
          exact ⟨source, List.mem_cons_of_mem _ among, read⟩
    | _ => cases taken

theorem mem_entriesOf {α : Type} {check : Fields Value → Checked α} {value : Value} {entries : List α} {entry : α}
    (taken : entriesOf check value = .ok entries) (member : entry ∈ entries) :
    ∃ items members, value = .list items ∧ .object members ∈ items ∧ check members = .valid entry := by
  cases value with
  | list items =>
    obtain ⟨members, among, read⟩ := mem_checkEntries taken member
    exact ⟨items, members, rfl, among, read⟩
  | _ => cases taken

end Definition

end Workbench
