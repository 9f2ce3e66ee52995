import Workbench.Proofs.Files.Tree

namespace Workbench.Tree

/-- Whether every file of a tree can be opened under the path that the tree shows, and the page stays out of it. -/
structure Opens (store : Store) (tree : TreeItem) : Prop where
  opened : ∀ item ∈ tree.beneath, isFolder item = false → Fields.has store item.path = true
  hidden : ∀ item ∈ tree :: tree.beneath, item.path ≠ Store.previewRoot

/-- Whether a tree shows a path as it is written, or not at all, and without a folder in place of the page. -/
def IsPlain (path : String) : Prop :=
  path = Store.previewRoot ∨ segments path = [] ∨
    path = "/" ++ Text.join "/" (segments path) ∧ ¬ segments Store.previewRoot <+: segments path

theorem pathOf_root : pathOf (segments Store.previewRoot) = Store.previewRoot := by
  decide +kernel

theorem segments_root_ne_nil : segments Store.previewRoot ≠ [] := by
  decide +kernel

variable {children : Fields Branch} {planted : Set (List String)} {way longer : List String}

/-- What can be reached is what leads somewhere. -/
theorem Planted.exists_reach (grown : Planted planted children) (filled : way ≠ []) :
    (∃ found, (Branch.folder children).reach? way = some found) ↔ ∃ longer ∈ planted, way <+: longer := by
  constructor
  · rintro ⟨found, reached⟩
    cases found with
    | file => exact ⟨way, ((grown.file way).mp reached).1, List.prefix_rfl⟩
    | folder inner =>
      rcases (grown.folder way).mp ⟨inner, reached⟩ with root | ⟨longer, member, leads⟩
      · exact absurd root filled
      · exact ⟨longer, member, leads.1⟩
  · rintro ⟨longer, member, before⟩
    by_cases folder : IsFolderAt children way
    · exact ⟨_, folder.choose_spec⟩
    · have same : way = longer := by
        by_contra differs
        exact folder ((grown.folder way).mpr (Or.inr ⟨longer, member, before, differs⟩))
      exact ⟨.file, (grown.file way).mpr ⟨same ▸ member, folder⟩⟩

theorem mem_ways_paths {store : Store} : way ∈ ways (Store.paths store) [Store.previewRoot] ↔
    way ≠ [] ∧ ∃ path ∈ Fields.keys store, path ≠ Store.previewRoot ∧ segments path = way := by
  simp only [mem_ways, Store.paths, List.mem_mergeSort, List.mem_singleton]

/-- A store can be opened from its tree just when no path but that of the page begins where the page is, and a path
that is shown as a file is shown as the path of some file. -/
theorem opens_iff (store : Store) : Opens store (build (Store.paths store) [Store.previewRoot]).1 ↔
    ∀ path ∈ Fields.keys store, path ≠ Store.previewRoot →
      ¬ segments Store.previewRoot <+: segments path ∧
        (segments path ≠ [] →
          (∀ other ∈ Fields.keys store, other ≠ Store.previewRoot → ¬ Leads (segments path) (segments other)) →
            Fields.has store (pathOf (segments path)) = true) := by
  have grown := planted_planting (Store.paths store) [Store.previewRoot]
  rw [build_eq_display]
  constructor
  · intro opens path known other
    constructor
    · intro before
      have filled : segments path ≠ [] := fun empty => segments_root_ne_nil (List.prefix_nil.mp (empty ▸ before))
      obtain ⟨found, reached⟩ := (grown.exists_reach segments_root_ne_nil).mpr
        ⟨segments path, mem_ways_paths.mpr ⟨filled, path, known, other, rfl⟩, before⟩
      have beneath := (mem_beneath_display grown.sound).mpr ⟨_, found, segments_root_ne_nil, reached, rfl⟩
      exact opens.hidden _ (List.mem_cons_of_mem _ beneath) (path_shown.trans pathOf_root)
    · intro filled last
      have file : IsFileAt (planting (Store.paths store) [Store.previewRoot]) (segments path) := by
        refine (grown.file _).mpr ⟨mem_ways_paths.mpr ⟨filled, path, known, other, rfl⟩, ?_⟩
        rw [grown.folder]
        rintro (empty | ⟨longer, member, leads⟩)
        · exact filled empty
        · obtain ⟨_, further, listed, apart, rfl⟩ := mem_ways_paths.mp member
          exact last further listed apart leads
      have beneath := (mem_beneath_display grown.sound).mpr ⟨_, .file, filled, file, rfl⟩
      have opened := opens.opened _ beneath isFolder_shown
      rwa [path_shown] at opened
  · intro each
    constructor
    · intro item member kind
      obtain ⟨way, found, filled, reached, rfl⟩ := (mem_beneath_display grown.sound).mp member
      cases found with
      | folder inner => cases kind
      | file =>
        obtain ⟨planted, alone⟩ := (grown.file way).mp reached
        obtain ⟨_, path, known, other, rfl⟩ := mem_ways_paths.mp planted
        rw [path_shown]
        refine (each path known other).2 filled fun further listed apart leads => alone ?_
        have longer : segments further ≠ [] := fun empty => not_leads_nil (empty ▸ leads)
        exact (grown.folder _).mpr (Or.inr ⟨_, mem_ways_paths.mpr ⟨longer, further, listed, apart, rfl⟩, leads⟩)
    · intro item member shows
      rcases List.mem_cons.mp member with rfl | beneath
      · exact absurd shows (by decide : "/" ≠ Store.previewRoot)
      · obtain ⟨way, found, filled, reached, rfl⟩ := (mem_beneath_display grown.sound).mp beneath
        rw [path_shown] at shows
        have root : way = segments Store.previewRoot := by
          rw [← shows, segments_pathOf (grown.sound.isSegment reached)]
        obtain ⟨longer, planted, before⟩ := (grown.exists_reach filled).mp ⟨found, reached⟩
        obtain ⟨_, path, known, other, rfl⟩ := mem_ways_paths.mp planted
        exact (each path known other).1 (root ▸ before)

/-- A store of plain paths can be opened from its tree. -/
theorem opens_of_plain {store : Store} (plain : ∀ path ∈ Fields.keys store, IsPlain path) :
    Opens store (build (Store.paths store) [Store.previewRoot]).1 := by
  rw [opens_iff]
  intro path known other
  rcases plain path known with root | empty | ⟨written, apart⟩
  · exact absurd root other
  · exact ⟨fun before => segments_root_ne_nil (List.prefix_nil.mp (empty ▸ before)), absurd empty⟩
  · refine ⟨apart, fun filled _ => ?_⟩
    rw [pathOf_eq_join filled, ← written]
    exact Fields.has_iff_mem_keys.mpr known

/-- With a path alone in a store the store can be opened only if the path is plain. -/
theorem isPlain_of_opens {store : Store} {path : String} (known : path ∈ Fields.keys store)
    (alone : ∀ other ∈ Fields.keys store, other = path ∨ other = Store.previewRoot)
    (opens : Opens store (build (Store.paths store) [Store.previewRoot]).1) : IsPlain path := by
  by_cases root : path = Store.previewRoot
  · exact Or.inl root
  by_cases empty : segments path = []
  · exact Or.inr (Or.inl empty)
  obtain ⟨apart, opened⟩ := (opens_iff store).mp opens path known root
  have has := opened empty fun other member differs leads => by
    rcases alone other member with same | same
    · exact leads.2 (congrArg segments same.symm)
    · exact differs same
  rcases alone _ (Fields.has_iff_mem_keys.mp has) with same | same
  · exact Or.inr (Or.inr ⟨by rw [← pathOf_eq_join empty, same], apart⟩)
  · refine absurd ?_ apart
    rw [← same, segments_pathOf fun _ member => isSegment_of_mem member]

end Workbench.Tree
