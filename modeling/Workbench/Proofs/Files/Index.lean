import Workbench.Files.Index
import Workbench.Proofs.Fields
import Workbench.Proofs.Outcome

namespace Workbench

theorem Text.pairwise_mergeSort {α : Type} (text : α → String) (items : List α) :
    (items.mergeSort fun a b => decide (text a ≤ text b)).Pairwise fun a b => text a ≤ text b := by
  have ordered := @List.pairwise_mergeSort α (fun a b => decide (text a ≤ text b))
    (fun a b c first second => by simpa using String.le_trans (by simpa using first) (by simpa using second))
    (fun a b => by simpa using String.le_total (text a) (text b)) items
  simpa using ordered

namespace Index

theorem pairwise_listed (paths : List String) : (listed paths).Pairwise fun a b => a ≤ b :=
  (Text.pairwise_mergeSort id paths).filter _

theorem listed_perm (paths : List String) :
    (listed paths).Perm (paths.filter fun path => path ≠ Store.previewRoot) :=
  (List.mergeSort_perm paths _).filter _

/-- A page lists paths by their order, whatever order they are given in. -/
theorem listed_eq_of_perm {paths others : List String}
    (same : (paths.filter fun path => path ≠ Store.previewRoot).Perm
      (others.filter fun path => path ≠ Store.previewRoot)) : listed paths = listed others := by
  have whole : (listed paths).Perm (listed others) := (listed_perm paths).trans (same.trans (listed_perm others).symm)
  exact whole.eq_of_pairwise (fun a b _ _ first second => String.le_antisymm first second) (pairwise_listed paths)
    (pairwise_listed others)

theorem listed_paths (store : Store) : listed (Store.paths store) = listed (Fields.keys store) :=
  listed_eq_of_perm ((List.mergeSort_perm _ _).filter _)

theorem listed_root : listed [Store.previewRoot] = [] := by
  simp [listed]

theorem listed_single {path : String} (other : path ≠ Store.previewRoot) : listed [path] = [path] := by
  simp [listed, other]

/-- The page does not list itself, so it is the same before and after it is written. -/
theorem page_put_root (store : Store) (content : FileContent) :
    page (Store.paths (Fields.put store Store.previewRoot content)) = page (Store.paths store) := by
  have same : listed (Fields.keys (Fields.put store Store.previewRoot content)) = listed (Fields.keys store) := by
    refine listed_eq_of_perm ?_
    rw [Fields.keys_put]
    split
    · rfl
    · rw [List.filter_append]
      simp
  simp only [page, listed_paths, same]

/-- Whether the page that a store holds lists the paths that the store has. -/
def IsFresh (store : Store) : Prop :=
  Fields.get? store Store.previewRoot = some (.text (page (Store.paths store)))

theorem isFresh_refresh (store : Store) : IsFresh (refresh store) := by
  rw [IsFresh, refresh, Fields.get?_put, if_pos rfl, page_put_root]

/-- A page that lists a path differs from one that lists none. -/
theorem page_ne (path : String) {paths others : List String} (empty : listed paths = [])
    (one : listed others = [path]) : page paths ≠ page others := by
  intro same
  simp only [page, empty, one, List.map_nil, List.map_cons, Text.join] at same
  have blank : "" = item path := (String.append_right_inj _).mp ((String.append_left_inj _).mp same)
  have foot : "</a></li>" = "" := (String.append_eq_empty_iff.mp blank.symm).2
  exact absurd foot (by decide)

end Index

end Workbench
