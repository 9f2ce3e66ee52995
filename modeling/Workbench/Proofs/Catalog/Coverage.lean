import Workbench.Command.Resolve
import Workbench.Proofs.Fields
import Workbench.State.Basic

namespace Workbench

theorem Utility.findCommand?_mem {utility : Utility} {name : String} {command : Command}
    (found : utility.findCommand? name = some command) : command ∈ utility.allCommands :=
  List.mem_append_left _ (List.mem_of_find?_eq_some found)

theorem Utility.implicitCommand?_mem {utility : Utility} {command : Command}
    (found : utility.implicitCommand? = some command) : command ∈ utility.allCommands :=
  List.mem_append_right _ (by rw [found]; exact List.mem_singleton_self command)

namespace Resolution

theorem select?_mem {utility : Utility} {args rest : List String} {command : Command}
    (selected : select? utility args = some (command, rest)) : command ∈ utility.allCommands := by
  unfold select? at selected
  rcases Option.or_eq_some_iff.mp selected with sub | ⟨_, flat⟩
  · obtain ⟨name, _, found⟩ := Option.bind_eq_some_iff.mp sub
    obtain ⟨other, known, same⟩ := Option.map_eq_some_iff.mp found
    cases same
    exact Utility.findCommand?_mem known
  · obtain ⟨other, found, same⟩ := Option.map_eq_some_iff.mp flat
    cases same
    exact Utility.implicitCommand?_mem found

theorem searchIn_mem {base : String} {args rest : List String} {utilities : List Utility} {utility : Utility}
    {command : Command} (found : searchIn base args utilities = some (utility, command, rest)) :
    utility ∈ utilities ∧ command ∈ utility.allCommands := by
  induction utilities with
  | nil => cases found
  | cons first later ih =>
    unfold searchIn at found
    split at found
    · split at found
      · rename_i selected
        cases found
        exact ⟨List.mem_cons_self, select?_mem selected⟩
      · exact (ih found).imp_left (List.mem_cons_of_mem first)
    · exact (ih found).imp_left (List.mem_cons_of_mem first)

theorem bind_command (utility : Utility) (command : Command) (args : List String) (draws : Draws) :
    (bind utility command args draws).1.command = command := by
  unfold bind
  split <;> rfl

/-- Whatever line is resolved, its command is one of the catalog's. -/
theorem resolve_mem {catalog : Option Catalog} {line : String} {draws left : Draws} {resolution : Resolution}
    (resolved : resolve catalog line draws = (some resolution, left)) :
    ∃ known, catalog = some known ∧ resolution.command ∈ known.commands := by
  unfold resolve at resolved
  split at resolved
  · rename_i known base args _
    split at resolved
    · rename_i utility command rest found
      obtain ⟨member, own⟩ := searchIn_mem found
      have bound : (bind utility command rest draws).1 = resolution :=
        Option.some.inj (congrArg Prod.fst resolved)
      have same := bind_command utility command rest draws
      rw [bound] at same
      exact ⟨known, rfl, List.mem_flatMap.mpr ⟨utility, member, same ▸ own⟩⟩
    · cases resolved
  · cases resolved

end Resolution

namespace Catalog

theorem mem_keys_noteReferences {seen : Fields Bool} {changes : List StateChange} {metric : String} :
    metric ∈ (changes.foldl noteReference seen).keys ↔
      metric ∈ seen.keys ∨ metric ∈ changes.map StateChange.metric := by
  induction changes generalizing seen with
  | nil => simp
  | cons change rest ih =>
    rw [List.foldl_cons, ih, noteReference, Fields.mem_keys_put, List.map_cons, List.mem_cons, or_assoc,
      or_left_comm]

/-- The metrics that are collected when a catalog is loaded are those of all its changes. -/
theorem mem_keys_referencedMetrics {catalog : Catalog} {metric : String} :
    metric ∈ catalog.referencedMetrics.keys ↔ ∃ change ∈ catalog.changes, change.metric = metric := by
  unfold referencedMetrics
  rw [mem_keys_noteReferences]
  simp [Fields.keys]

end Catalog

namespace State

theorem mem_keys_initial_of_defined {definitions : List Definition} {catalog : Option Catalog}
    {definition : Definition} (member : definition ∈ definitions) :
    definition.id ∈ Fields.keys (initial definitions catalog) := by
  have defined : definition.id ∈
      Fields.keys (Fields.ofPairs (definitions.map fun definition => (definition.id, definition.initial))) := by
    unfold Fields.ofPairs
    rw [Fields.mem_keys_putAll, List.map_map]
    exact Or.inr (List.mem_map.mpr ⟨definition, member, rfl⟩)
  cases catalog with
  | none => exact defined
  | some catalog =>
    simp only [initial, Fields.keys, List.map_append]
    exact List.mem_append_left _ defined

/-- A fresh state vector holds the metric of every change of the catalog, defined or not. -/
theorem mem_keys_initial_of_change {definitions : List Definition} {catalog : Catalog} {change : StateChange}
    (member : change ∈ catalog.changes) :
    change.metric ∈ Fields.keys (initial definitions (some catalog)) := by
  have referenced := Catalog.mem_keys_referencedMetrics.mpr ⟨change, member, rfl⟩
  cases found : Definition.find? definitions change.metric with
  | some definition =>
    have same : definition.id = change.metric := by simpa using List.find?_some found
    rw [← same]
    exact mem_keys_initial_of_defined (List.mem_of_find?_eq_some found)
  | none =>
    obtain ⟨entry, atEntry, same⟩ := List.mem_map.mp referenced
    have seeded : entry ∈ undefinedMetrics definitions catalog :=
      List.mem_filter.mpr ⟨atEntry, by rw [same, found]; rfl⟩
    simp only [initial, Fields.keys, List.map_append]
    apply List.mem_append_right
    rw [← same]
    exact List.mem_map.mpr ⟨(entry.1, seed entry.2), List.mem_map.mpr ⟨entry, seeded, rfl⟩, rfl⟩

end State

end Workbench
