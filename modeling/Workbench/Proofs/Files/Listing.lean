import Workbench.Files.Shell
import Workbench.Proofs.Files.Tree
import Workbench.Proofs.Text.Cut

namespace Workbench

namespace Tree

variable {way : List String}

/-- Whether a path is a slash and then its segments with slashes between them, none of them empty. -/
def IsRooted (path : String) : Prop :=
  path = "/" ++ Text.join "/" (segments path)

instance (path : String) : Decidable (IsRooted path) :=
  inferInstanceAs (Decidable (_ = _))

/-- The characters of a way: every segment behind a slash. -/
def spelled (way : List String) : List Char :=
  way.flatMap fun segment => '/' :: segment.toList

theorem toList_pathOf (way : List String) : (pathOf way).toList = spelled way := by
  induction way using List.reverseRecOn with
  | nil => rfl
  | append_singleton earlier segment ih =>
    rw [pathOf_concat, String.toList_append, String.toList_append, ih]
    simp [spelled]

theorem IsRooted.toList {path : String} (rooted : IsRooted path) (filled : segments path ≠ []) :
    path.toList = spelled (segments path) := by
  rw [← toList_pathOf, pathOf_eq_join filled, ← rooted]

theorem head?_spelled (way : List String) : spelled way = [] ∨ (spelled way).head? = some '/' := by
  cases way with
  | nil => exact Or.inl rfl
  | cons => exact Or.inr rfl

/-- Two texts without slashes are the same if the same follows after both, the first being followed by a slash. -/
theorem eq_of_append_slash {first second front back : List Char} (early : '/' ∉ first) (late : '/' ∉ second)
    (same : first ++ front = second ++ back) (opens : front.head? = some '/')
    (border : back = [] ∨ back.head? = some '/') : first = second ∧ front = back := by
  rcases List.append_eq_append_iff.mp same with ⟨rest, rfl, rfl⟩ | ⟨rest, rfl, rfl⟩
  · cases rest with
    | nil => exact ⟨(List.append_nil first).symm, rfl⟩
    | cons c rest =>
      rw [Option.some.inj opens] at late
      exact absurd (List.mem_append_right first List.mem_cons_self) late
  · cases rest with
    | nil => exact ⟨List.append_nil second, rfl⟩
    | cons c rest =>
      have slash : c = '/' := by simpa using border
      exact absurd (List.mem_append_right second (slash ▸ List.mem_cons_self)) early

/-- What is spelled below a folder goes on with a name. -/
theorem spelled_eq_append_iff {way longer : List String} (plain : ∀ segment ∈ way, IsSegment segment)
    (segmented : ∀ segment ∈ longer, IsSegment segment) {rest : List Char} :
    spelled longer = spelled way ++ '/' :: rest ↔
      ∃ name later, longer = way ++ name :: later ∧ rest = name.toList ++ spelled later := by
  constructor
  · intro same
    induction way generalizing longer with
    | nil =>
      cases longer with
      | nil => cases same
      | cons name later => exact ⟨name, later, rfl, (List.cons_eq_cons.mp same).2.symm⟩
    | cons segment way ih =>
      obtain ⟨⟨_, bare⟩, others⟩ := List.forall_mem_cons.mp plain
      cases longer with
      | nil => cases same
      | cons first further =>
        obtain ⟨⟨_, free⟩, remaining⟩ := List.forall_mem_cons.mp segmented
        have inner : segment.toList ++ (spelled way ++ '/' :: rest) = first.toList ++ spelled further := by
          rw [← List.append_assoc]
          exact (List.cons_eq_cons.mp same).2.symm
        have opens : (spelled way ++ '/' :: rest).head? = some '/' := by
          cases way <;> rfl
        obtain ⟨name, tail⟩ := eq_of_append_slash bare free inner opens (head?_spelled further)
        obtain ⟨next, later, rfl, spelling⟩ := ih others remaining tail.symm
        exact ⟨next, later, by rw [String.toList_inj.mp name, List.cons_append], spelling⟩
  · rintro ⟨name, later, rfl, rfl⟩
    simp [spelled]

theorem isSegment_of_further {path name : String} {later : List String}
    (further : segments path = way ++ name :: later) : IsSegment name :=
  isSegment_of_mem (further ▸ List.mem_append_right way List.mem_cons_self)

/-- A rooted path is the path of its segments. -/
theorem IsRooted.eq_pathOf {path : String} (rooted : IsRooted path) (filled : segments path ≠ []) :
    path = pathOf (segments path) :=
  rooted.trans (pathOf_eq_join filled).symm

theorem getLast?_toList_pathOf (plain : ∀ segment ∈ way, IsSegment segment) :
    (pathOf way).toList.getLast? ≠ some '/' := by
  cases way using List.reverseRecOn with
  | nil => simp [pathOf]
  | append_singleton earlier segment =>
    obtain ⟨filled, bare⟩ := plain segment (List.mem_append_right earlier List.mem_cons_self)
    have some_last : segment.toList ≠ [] := by simpa using filled
    rw [pathOf_concat, String.toList_append, List.getLast?_append_of_ne_nil _ some_last]
    exact fun last => bare (List.mem_of_getLast? last)

theorem leads_concat_iff {name : String} {longer : List String} :
    Leads (way ++ [name]) longer ↔ ∃ later, later ≠ [] ∧ longer = way ++ name :: later := by
  constructor
  · rintro ⟨⟨later, rfl⟩, differs⟩
    exact ⟨later, fun ends => differs (by rw [ends, List.append_nil]), List.append_assoc way [name] later⟩
  · rintro ⟨later, further, rfl⟩
    refine ⟨⟨later, List.append_assoc way [name] later⟩, fun same => further ?_⟩
    simpa using same.symm

/-- The ways that the tree of a store is made from. -/
theorem mem_ways_all_paths {store : Store} : way ∈ ways (Store.paths store) [] ↔
    way ≠ [] ∧ ∃ key ∈ Fields.keys store, segments key = way := by
  simp [mem_ways, Store.paths]

namespace Faithful

variable {store : Store} {planted : Set (List String)} {tree item : TreeItem} {name : String}

theorem way_of_child (faithful : Faithful planted tree) (here : item ∈ tree :: tree.beneath) {child : TreeItem}
    (listed : child ∈ item.children) : child ∈ tree.beneath ∧ child.way = item.way ++ [itemName child] :=
  ⟨TreeItem.mem_beneath_iff_child.mpr ⟨item, here, listed⟩, faithful.parent item here child listed⟩

theorem path_eq_pathOf (faithful : Faithful planted tree) (within : item ∈ tree.beneath) :
    item.path = pathOf item.way :=
  (faithful.named item within).1.trans (pathOf_eq_join (faithful.way_ne_nil within)).symm

/-- A store of rooted paths holds what a tree shows if one of its paths goes the same way. -/
theorem has_path_iff (faithful : Faithful planted tree) (within : item ∈ tree.beneath)
    (rooted : ∀ key ∈ Fields.keys store, IsRooted key) :
    Fields.has store item.path = true ↔ ∃ key ∈ Fields.keys store, segments key = item.way := by
  rw [Fields.has_iff_mem_keys]
  constructor
  · intro known
    exact ⟨item.path, known, segments_eq_wayOf _⟩
  · rintro ⟨key, known, same⟩
    have filled : segments key ≠ [] := same ▸ faithful.way_ne_nil within
    rwa [faithful.path_eq_pathOf within, ← same, ← (rooted key known).eq_pathOf filled]

/-- The children of an item are what stands one segment further. -/
theorem exists_child_named (faithful : Faithful planted tree) (here : item ∈ tree :: tree.beneath) {kind : Bool} :
    (∃ child ∈ item.children, isFolder child = kind ∧ itemName child = name) ↔
      ∃ image ∈ tree.beneath, isFolder image = kind ∧ image.way = item.way ++ [name] := by
  constructor
  · rintro ⟨child, listed, alike, rfl⟩
    obtain ⟨within, further⟩ := faithful.way_of_child here listed
    exact ⟨child, within, alike, further⟩
  · rintro ⟨image, within, alike, further⟩
    obtain ⟨parent, above, listed⟩ := TreeItem.mem_beneath_iff_child.mp within
    obtain ⟨same, named⟩ := List.append_inj' ((faithful.parent parent above image listed).symm.trans further) rfl
    cases faithful.eq_of_way above here same
    exact ⟨image, listed, alike, List.singleton_inj.mp named⟩

/-- The folders in a folder are the segments behind it that a path goes on from. -/
theorem exists_folder_named (faithful : Faithful (ways (Store.paths store) []) tree)
    (here : item ∈ tree :: tree.beneath) :
    (∃ child ∈ item.children, isFolder child = true ∧ itemName child = name) ↔
      ∃ key ∈ Fields.keys store, ∃ later, later ≠ [] ∧ segments key = item.way ++ name :: later := by
  rw [faithful.exists_child_named here, faithful.folder]
  simp only [leads_concat_iff, mem_ways_all_paths]
  constructor
  · rintro ⟨_, longer, ⟨_, key, known, rfl⟩, further⟩
    exact ⟨key, known, further⟩
  · rintro ⟨key, known, later, further, same⟩
    exact ⟨by simp, segments key, ⟨by simp [same], key, known, rfl⟩, later, further, same⟩

/-- The files in a folder are the segments behind it that a path ends with and none goes on from. -/
theorem exists_file_named (faithful : Faithful (ways (Store.paths store) []) tree)
    (here : item ∈ tree :: tree.beneath) :
    (∃ child ∈ item.children, isFolder child = false ∧ itemName child = name) ↔
      (∃ key ∈ Fields.keys store, segments key = item.way ++ [name]) ∧
        ¬ ∃ child ∈ item.children, isFolder child = true ∧ itemName child = name := by
  have folder := faithful.folder (item.way ++ [name])
  rw [faithful.exists_child_named here, faithful.exists_child_named here, faithful.file, folder, mem_ways_all_paths]
  simp

end Faithful

end Tree

namespace Shell

variable {store : Store} {way : List String} {key name : String} {later : List String}

/-- What a listing shows of a path that goes on from a folder. -/
def shownAs (name : String) (later : List String) : String :=
  if later = [] then name else name ++ "/"

/-- What follows a folder in a rooted path is a name and the rest of the way. -/
theorem dropLead?_spelled_iff (rooted : Tree.IsRooted key) (plain : ∀ segment ∈ way, Tree.IsSegment segment)
    {rest : List Char} : Text.dropLead? (Tree.spelled way ++ ['/']) key.toList = some rest ∧ rest ≠ [] ↔
      ∃ name later, Tree.segments key = way ++ name :: later ∧ rest = name.toList ++ Tree.spelled later := by
  have segmented : ∀ segment ∈ Tree.segments key, Tree.IsSegment segment := fun _ => Tree.isSegment_of_mem
  rw [Text.dropLead?_eq_some_iff, List.append_assoc, List.singleton_append]
  by_cases root : Tree.segments key = []
  · rw [Tree.IsRooted, root] at rooted
    refine iff_of_false ?_ ?_
    · rintro ⟨same, filled⟩
      subst rooted
      have short := congrArg List.length same
      have long := List.length_pos_iff.mpr filled
      simp [Text.join] at short
      omega
    · rintro ⟨name, later, same, _⟩
      simp [root] at same
  · rw [rooted.toList root, Tree.spelled_eq_append_iff plain segmented]
    refine and_iff_left_of_imp ?_
    rintro ⟨name, later, same, rfl⟩
    exact List.append_ne_nil_of_left_ne_nil (by simpa using (Tree.isSegment_of_further same).1) _

/-- An entry is what follows a folder, cut at the first slash. -/
theorem entryBelow?_eq_some_iff {folder path entry : List Char} : entryBelow? folder path = some entry ↔
    ∃ rest, (Text.dropLead? folder path = some rest ∧ rest ≠ []) ∧
      entry = ((Text.cutFirst ['/'] rest).map fun parts => parts.1 ++ ['/']).getD rest := by
  rw [entryBelow?]
  cases found : Text.dropLead? folder path with
  | none => simp
  | some rest =>
    cases rest with
    | nil => simp
    | cons c rest => cases cut : Text.cutFirst ['/'] (c :: rest) <;> simp [cut, eq_comm]

theorem toList_shownAs (named : Tree.IsSegment name) (later : List String) :
    (shownAs name later).toList = ((Text.cutFirst ['/'] (name.toList ++ Tree.spelled later)).map fun parts =>
      parts.1 ++ ['/']).getD (name.toList ++ Tree.spelled later) := by
  have bare : ¬ ['/'] <:+: name.toList := fun within => named.2 (within.mem List.mem_cons_self)
  cases later with
  | nil =>
    have uncut : Text.cutFirst ['/'] (name.toList ++ Tree.spelled []) = none :=
      Text.cutFirst_eq_none_iff.mpr (by simpa [Tree.spelled] using bare)
    rw [uncut]
    simp [shownAs, Tree.spelled]
  | cons next further =>
    have cut : Text.cutFirst ['/'] (name.toList ++ Tree.spelled (next :: further)) =
        some (name.toList, next.toList ++ Tree.spelled further) :=
      Text.cutFirst_of_first (List.cons_ne_nil '/' []) (by simpa using bare)
    rw [cut]
    simp [shownAs]

/-- A rooted path is shown in the listing of a folder if it goes on from there, by the next segment. -/
theorem entryBelow?_spelled (rooted : Tree.IsRooted key) (plain : ∀ segment ∈ way, Tree.IsSegment segment)
    {entry : String} : entryBelow? (Tree.spelled way ++ ['/']) key.toList = some entry.toList ↔
      ∃ name later, Tree.segments key = way ++ name :: later ∧ entry = shownAs name later := by
  rw [entryBelow?_eq_some_iff]
  constructor
  · rintro ⟨rest, below, spelling⟩
    obtain ⟨name, later, further, rfl⟩ := (dropLead?_spelled_iff rooted plain).mp below
    rw [← toList_shownAs (Tree.isSegment_of_further further)] at spelling
    exact ⟨name, later, further, String.toList_inj.mp spelling⟩
  · rintro ⟨name, later, further, rfl⟩
    exact ⟨_, (dropLead?_spelled_iff rooted plain).mpr ⟨name, later, further, rfl⟩,
      toList_shownAs (Tree.isSegment_of_further further) later⟩

theorem getLast?_shownAs (named : Tree.IsSegment name) (later : List String) :
    (shownAs name later).toList.getLast? = some '/' ↔ later ≠ [] := by
  by_cases ends : later = []
  · rw [shownAs, if_pos ends]
    exact iff_of_false (fun last => named.2 (List.mem_of_getLast? last)) (not_not_intro ends)
  · simp [shownAs, ends]

theorem entriesOf_of_slash {path : String} (slash : path.toList.getLast? = some '/') :
    entriesOf store path = (((Fields.keys store).filterMap fun key =>
      (entryBelow? path.toList key.toList).map String.ofList).eraseDups.mergeSort fun a b => decide (a ≤ b)) := by
  rw [entriesOf, if_pos slash]

/-- A slash at the end of a folder's path makes no difference. -/
theorem entriesOf_pathOf (plain : ∀ segment ∈ way, Tree.IsSegment segment) :
    entriesOf store (Tree.pathOf way) = entriesOf store (Tree.pathOf way ++ "/") := by
  have slash : (Tree.pathOf way ++ "/").toList.getLast? = some '/' := by simp
  rw [entriesOf_of_slash slash, entriesOf, if_neg (Tree.getLast?_toList_pathOf plain), String.toList_append]
  rfl

theorem nodup_eraseDups (texts : List String) : texts.eraseDups.Nodup := by
  cases texts with
  | nil => simp
  | cons first rest =>
    rw [List.eraseDups_cons, List.nodup_cons]
    exact ⟨by simp [List.mem_eraseDups], nodup_eraseDups (rest.filter fun text => !text == first)⟩
termination_by texts.length
decreasing_by exact Nat.lt_succ_of_le (List.length_filter_le _ _)

theorem pairwise_entriesOf (store : Store) (path : String) : (entriesOf store path).Pairwise fun a b => a < b := by
  have sorted (texts : List String) : (texts.eraseDups.mergeSort fun a b => decide (a ≤ b)).Pairwise
      fun a b => a < b := by
    have distinct := (List.mergeSort_perm texts.eraseDups fun a b => decide (a ≤ b)).nodup_iff.mpr
      (nodup_eraseDups texts)
    exact ((Text.pairwise_mergeSort id texts.eraseDups).and distinct).imp fun ⟨before, differs⟩ =>
      lt_of_le_of_ne before differs
  exact sorted _

/-- The entries of a folder are the names that rooted paths go on with from there. -/
theorem mem_entriesOf (rooted : ∀ key ∈ Fields.keys store, Tree.IsRooted key)
    (plain : ∀ segment ∈ way, Tree.IsSegment segment) {entry : String} :
    entry ∈ entriesOf store (Tree.pathOf way ++ "/") ↔
      ∃ key ∈ Fields.keys store, ∃ name later,
        Tree.segments key = way ++ name :: later ∧ entry = shownAs name later := by
  have below (key : String) (known : key ∈ Fields.keys store) :
      (entryBelow? (Tree.pathOf way ++ "/").toList key.toList).map String.ofList = some entry ↔
        ∃ name later, Tree.segments key = way ++ name :: later ∧ entry = shownAs name later := by
    have folder : (Tree.pathOf way ++ "/").toList = Tree.spelled way ++ ['/'] := by
      rw [String.toList_append, Tree.toList_pathOf]
      rfl
    rw [folder, ← entryBelow?_spelled (rooted key known) plain, Option.map_eq_some_iff]
    constructor
    · rintro ⟨cs, found, rfl⟩
      rw [found, String.toList_ofList]
    · intro found
      exact ⟨_, found, String.ofList_toList⟩
  rw [entriesOf_of_slash (by simp), List.mem_mergeSort, List.mem_eraseDups, List.mem_filterMap]
  exact exists_congr fun key => and_congr_right (below key)

/-- Whether texts are the entries of a folder of the tree: in order and each once; with a slash at their end the
folders in it; and without one the files in it, with the folders in it that are paths of the store as well. -/
structure Lists (store : Store) (folder : TreeItem) (entries : List String) : Prop where
  sorted : entries.Pairwise fun a b => a < b
  folders : ∀ entry, (entry ∈ entries ∧ entry.toList.getLast? = some '/') ↔
    ∃ child ∈ folder.children, Tree.isFolder child = true ∧ entry = Tree.itemName child ++ "/"
  others : ∀ entry, (entry ∈ entries ∧ entry.toList.getLast? ≠ some '/') ↔
    ∃ child ∈ folder.children, entry = Tree.itemName child ∧
      (Tree.isFolder child = false ∨ Fields.has store child.path = true)

theorem Lists.filled {folder : TreeItem} {entries : List String} (lists : Lists store folder entries)
    (children : folder.children ≠ []) : entries ≠ [] := by
  obtain ⟨child, rest, whole⟩ := List.exists_cons_of_ne_nil children
  have listed : child ∈ folder.children := whole ▸ List.mem_cons_self
  cases kind : Tree.isFolder child with
  | true => exact List.ne_nil_of_mem ((lists.folders _).mpr ⟨child, listed, kind, rfl⟩).1
  | false => exact List.ne_nil_of_mem ((lists.others _).mpr ⟨child, listed, rfl, Or.inl kind⟩).1

/-- The entries of a folder are its children in the tree. -/
theorem lists_entriesOf {tree folder : TreeItem} (rooted : ∀ key ∈ Fields.keys store, Tree.IsRooted key)
    (faithful : Tree.Faithful (Tree.ways (Store.paths store) []) tree) (here : folder ∈ tree :: tree.beneath) :
    Lists store folder (entriesOf store (Tree.pathOf folder.way ++ "/")) := by
  have plain : ∀ segment ∈ folder.way, Tree.IsSegment segment := fun _ => folder.isSegment_of_mem_way
  refine ⟨pairwise_entriesOf store _, fun entry => ?_, fun entry => ?_⟩
  · rw [mem_entriesOf rooted plain]
    constructor
    · rintro ⟨⟨key, known, name, later, further, rfl⟩, slash⟩
      have more := (getLast?_shownAs (Tree.isSegment_of_further further) later).mp slash
      obtain ⟨child, listed, kind, rfl⟩ := (faithful.exists_folder_named here).mpr ⟨key, known, later, more, further⟩
      exact ⟨child, listed, kind, if_neg more⟩
    · rintro ⟨child, listed, kind, rfl⟩
      obtain ⟨key, known, later, more, further⟩ :=
        (faithful.exists_folder_named here).mp ⟨child, listed, kind, rfl⟩
      exact ⟨⟨key, known, _, later, further, (if_neg more).symm⟩, by simp⟩
  · have stored {child : TreeItem} (listed : child ∈ folder.children) : Fields.has store child.path = true ↔
        ∃ key ∈ Fields.keys store, Tree.segments key = folder.way ++ [Tree.itemName child] := by
      obtain ⟨within, further⟩ := faithful.way_of_child here listed
      rw [faithful.has_path_iff within rooted, further]
    rw [mem_entriesOf rooted plain]
    constructor
    · rintro ⟨⟨key, known, name, later, further, rfl⟩, slash⟩
      obtain rfl : later = [] := by
        by_contra more
        exact slash ((getLast?_shownAs (Tree.isSegment_of_further further) later).mpr more)
      by_cases both : ∃ child ∈ folder.children, Tree.isFolder child = true ∧ Tree.itemName child = name
      · obtain ⟨child, listed, _, rfl⟩ := both
        exact ⟨child, listed, rfl, Or.inr ((stored listed).mpr ⟨key, known, further⟩)⟩
      · obtain ⟨child, listed, kind, rfl⟩ :=
          (faithful.exists_file_named here).mpr ⟨⟨key, known, further⟩, both⟩
        exact ⟨child, listed, rfl, Or.inl kind⟩
    · rintro ⟨child, listed, rfl, kind⟩
      have known : ∃ key ∈ Fields.keys store, Tree.segments key = folder.way ++ [Tree.itemName child] := by
        rcases kind with file | held
        · exact ((faithful.exists_file_named here).mp ⟨child, listed, file, rfl⟩).1
        · exact (stored listed).mp held
      obtain ⟨key, known, further⟩ := known
      have ends : shownAs (Tree.itemName child) [] = Tree.itemName child := if_pos rfl
      refine ⟨⟨key, known, _, [], further, ends.symm⟩, ?_⟩
      rw [← ends, ne_eq, getLast?_shownAs (Tree.isSegment_of_further further)]
      simp

theorem list_of_filled {path : String} (named : path ≠ "") (filled : entriesOf store path ≠ []) :
    list store (some path) = done (Text.join "\n" (entriesOf store path)) := by
  have given : ((some path).filter (· ≠ "")).getD "/" = path := by
    rw [Option.filter_some_pos (by simpa using named), Option.getD_some]
  have some_entries : (entriesOf store path).isEmpty = false := by simpa using filled
  simp only [list, given, some_entries, Bool.false_eq_true, if_false]

/-- The listing of a folder whose path is given with or without a slash at its end. -/
theorem list_pathOf (plain : ∀ segment ∈ way, Tree.IsSegment segment) {argument : String}
    (named : argument = Tree.pathOf way ∨ argument = Tree.pathOf way ++ "/")
    (filled : entriesOf store (Tree.pathOf way ++ "/") ≠ []) :
    list store (some argument) = done (Text.join "\n" (entriesOf store (Tree.pathOf way ++ "/"))) := by
  rcases named with rfl | rfl
  · by_cases root : Tree.pathOf way = ""
    · -- Without its slash the path of the root is empty, and a listing of the empty path is one of the root.
      have given : list store (some "") = list store (some "/") := rfl
      rw [root, String.empty_append] at filled ⊢
      rw [given]
      exact list_of_filled (by decide) filled
    · rw [← entriesOf_pathOf plain] at filled ⊢
      exact list_of_filled root filled
  · exact list_of_filled (by simp) filled

/-- Listing a folder shows what the tree has in it, whether or not a slash ends the folder's path. -/
theorem list_agrees_with_tree (rooted : ∀ key ∈ Fields.keys store, Tree.IsRooted key) {folder : TreeItem}
    (shown : folder ∈ (Tree.build (Store.paths store) []).1 :: (Tree.build (Store.paths store) []).1.beneath)
    (filled : folder.children ≠ []) {argument : String}
    (named : argument ∈ [folder.path, Tree.pathOf folder.way, Tree.pathOf folder.way ++ "/"]) :
    list store (some argument) = done (Text.join "\n" (entriesOf store folder.path)) ∧
      Lists store folder (entriesOf store folder.path) := by
  have faithful := Tree.faithful_build (Store.paths store) []
  have plain : ∀ segment ∈ folder.way, Tree.IsSegment segment := fun _ => folder.isSegment_of_mem_way
  have path : folder.path = Tree.pathOf folder.way ∨ folder.path = Tree.pathOf folder.way ++ "/" := by
    rcases List.mem_cons.mp shown with rfl | beneath
    · rw [faithful.way_root]
      exact Or.inr rfl
    · exact Or.inl (faithful.path_eq_pathOf beneath)
  have spelling : argument = Tree.pathOf folder.way ∨ argument = Tree.pathOf folder.way ++ "/" := by
    simp only [List.mem_cons, List.not_mem_nil, or_false] at named
    rcases named with rfl | other
    · exact path
    · exact other
  have entries : entriesOf store folder.path = entriesOf store (Tree.pathOf folder.way ++ "/") := by
    rcases path with same | same
    · rw [same, entriesOf_pathOf plain]
    · rw [same]
  have lists := lists_entriesOf rooted faithful shown
  rw [entries]
  exact ⟨list_pathOf plain spelling (lists.filled filled), lists⟩

/-- A path that another one goes on from, and one whose name only begins with its name. -/
def crossing : Store :=
  [("/a", .text ""), ("/a/b", .text ""), ("/ab/c", .text ""), ("/d", .text "")]

theorem list_agrees_with_tree_crossing :
    (∀ key ∈ Fields.keys crossing, Tree.IsRooted key) ∧ (Tree.build (Store.paths crossing) []).1.children ≠ [] ∧
      list crossing (some "") = done "a\na/\nab/\nd" ∧
      Lists crossing (Tree.build (Store.paths crossing) []).1 ["a", "a/", "ab/", "d"] := by
  have rooted : ∀ key ∈ Fields.keys crossing, Tree.IsRooted key := by
    decide +kernel
  have filled : (Tree.build (Store.paths crossing) []).1.children ≠ [] := by
    have further : Tree.segments "/a/b" = ["a", "b"] := by
      decide +kernel
    obtain ⟨child, listed, _⟩ := ((Tree.faithful_build (Store.paths crossing) []).exists_folder_named
      List.mem_cons_self).mpr ⟨"/a/b", by decide, ["b"], List.cons_ne_nil _ _, further⟩
    exact List.ne_nil_of_mem listed
  have entries : entriesOf crossing "/" = ["a", "a/", "ab/", "d"] := by
    have once : ((Fields.keys crossing).filterMap fun key =>
        (entryBelow? "/".toList key.toList).map String.ofList).eraseDups = ["a", "a/", "ab/", "d"] := by
      decide +kernel
    rw [entriesOf_of_slash rfl, once, List.mergeSort_of_pairwise (by decide +kernel)]
  have root : (Tree.build (Store.paths crossing) []).1.path = "/" := rfl
  have agrees := @list_agrees_with_tree crossing rooted _ List.mem_cons_self filled "" (by decide +kernel)
  rw [root, entries] at agrees
  exact ⟨rooted, filled, agrees⟩

end Shell

end Workbench
