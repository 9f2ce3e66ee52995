import Workbench.Proofs.Files.Branch

namespace Workbench

namespace TreeItem

theorem induct {motive : TreeItem → Prop} (file : ∀ name path, motive (.file name path))
    (folder : ∀ name path children, (∀ child ∈ children, motive child) → motive (.folder name path children)) :
    ∀ item, motive item
  | .file name path => file name path
  | .folder name path children => folder name path children fun child _ => TreeItem.induct file folder child
termination_by item => sizeOf item
decreasing_by
  rename_i member
  have smaller := List.sizeOf_lt_of_mem member
  simp only [TreeItem.folder.sizeOf_spec]
  omega

mutual

/-- What stands beneath an item, each item before what stands beneath it. -/
def beneath : TreeItem → List TreeItem
  | .file .. => []
  | .folder _ _ children => beneathAll children

def beneathAll : List TreeItem → List TreeItem
  | [] => []
  | item :: rest => item :: (item.beneath ++ beneathAll rest)

end

def path : TreeItem → String
  | .file _ path => path
  | .folder _ path _ => path

def children : TreeItem → List TreeItem
  | .file .. => []
  | .folder _ _ children => children

/-- The way of an item's path. -/
def way (item : TreeItem) : List String :=
  Tree.wayOf item.path

theorem isSegment_of_mem_way (item : TreeItem) {segment : String} (member : segment ∈ item.way) :
    Tree.IsSegment segment := by
  rw [way, ← Tree.segments_eq_wayOf] at member
  exact Tree.isSegment_of_mem member

theorem beneathAll_eq_flatMap (items : List TreeItem) :
    beneathAll items = items.flatMap fun item => item :: item.beneath := by
  induction items with
  | nil => rfl
  | cons item rest ih => rw [beneathAll, ih, List.flatMap_cons, List.cons_append]

theorem beneath_eq_flatMap (tree : TreeItem) :
    tree.beneath = tree.children.flatMap fun child => child :: child.beneath := by
  cases tree with
  | file => rfl
  | folder name path children => exact beneathAll_eq_flatMap children

theorem mem_beneath {tree item : TreeItem} :
    item ∈ tree.beneath ↔ ∃ child ∈ tree.children, item = child ∨ item ∈ child.beneath := by
  rw [beneath_eq_flatMap, List.mem_flatMap]
  simp only [List.mem_cons]

/-- What stands beneath an item is a child of it or of something beneath it. -/
theorem mem_beneath_iff_child {tree item : TreeItem} :
    item ∈ tree.beneath ↔ ∃ parent ∈ tree :: tree.beneath, item ∈ parent.children := by
  induction tree using TreeItem.induct with
  | file => simp [beneath, children]
  | folder name path items ih =>
    constructor
    · intro member
      obtain ⟨child, listed, here⟩ := mem_beneath.mp member
      rcases here with rfl | deeper
      · exact ⟨_, List.mem_cons_self, listed⟩
      · obtain ⟨parent, within, listing⟩ := (ih child listed).mp deeper
        exact ⟨parent, List.mem_cons_of_mem _ (mem_beneath.mpr ⟨child, listed, List.mem_cons.mp within⟩), listing⟩
    · rintro ⟨parent, within, listing⟩
      rcases List.mem_cons.mp within with rfl | within
      · exact mem_beneath.mpr ⟨item, listing, Or.inl rfl⟩
      · obtain ⟨child, listed, here⟩ := mem_beneath.mp within
        have deeper := (ih child listed).mpr ⟨parent, List.mem_cons.mpr here, listing⟩
        exact mem_beneath.mpr ⟨child, listed, Or.inr deeper⟩

end TreeItem

namespace Tree

/-- Whether siblings have names of their own and stand folders before files, each group in code point order. -/
structure InOrder (siblings : List TreeItem) : Prop where
  distinct : (siblings.map itemName).Nodup
  folders_first : siblings.Pairwise fun first second => isFolder second = true → isFolder first = true
  sorted : siblings.Pairwise fun first second => isFolder first = isFolder second → itemName first < itemName second

/-- Siblings have only one order. -/
theorem InOrder.unique {siblings others : List TreeItem} (one : InOrder siblings) (two : InOrder others)
    (same : ∀ item, item ∈ siblings ↔ item ∈ others) : siblings = others := by
  have perm : siblings.Perm others := (List.perm_ext_iff_of_nodup one.distinct.of_map two.distinct.of_map).mpr same
  refine perm.eq_of_pairwise ?_ (one.folders_first.and one.sorted) (two.folders_first.and two.sorted)
  intro first second _ _ ⟨front, before⟩ ⟨back, after⟩
  have alike : isFolder first = isFolder second := Bool.eq_iff_iff.mpr ⟨back, front⟩
  exact absurd ((before alike).trans (after alike.symm)) (lt_irrefl _)

theorem perm_arrange (items : List TreeItem) : (arrange items).Perm items :=
  (List.filter_append_perm isFolder _).trans (List.mergeSort_perm items _)

theorem inOrder_arrange {items : List TreeItem} (distinct : (items.map itemName).Nodup) :
    InOrder (arrange items) := by
  have rising : (items.mergeSort fun a b => decide (itemName a ≤ itemName b)).Pairwise
      fun first second => itemName first < itemName second := by
    have names := ((List.mergeSort_perm items fun a b => decide (itemName a ≤ itemName b)).map itemName).nodup_iff.mpr
      distinct
    exact ((Text.pairwise_mergeSort itemName items).and (List.pairwise_map.mp names)).imp fun ⟨before, differs⟩ =>
      lt_of_le_of_ne before differs
  refine ⟨((perm_arrange items).map itemName).nodup_iff.mpr distinct, ?_, ?_⟩
  · refine List.pairwise_append.mpr ⟨List.pairwise_of_forall_mem_list ?_, List.pairwise_of_forall_mem_list ?_, ?_⟩
    · intro first member second _ _
      exact (List.mem_filter.mp member).2
    · intro first _ second member folder
      have file : isFolder second = false := by simpa using (List.mem_filter.mp member).2
      exact absurd (file.symm.trans folder) Bool.false_ne_true
    · intro first member second _ _
      exact (List.mem_filter.mp member).2
  · refine List.pairwise_append.mpr ⟨?_, ?_, ?_⟩
    · refine (rising.filter isFolder).imp ?_
      exact fun before _ => before
    · refine (rising.filter fun item => !isFolder item).imp ?_
      exact fun before _ => before
    · intro first folder second member alike
      have file : isFolder second = false := by simpa using (List.mem_filter.mp member).2
      exact absurd (file.symm.trans (alike.symm.trans (List.mem_filter.mp folder).2)) Bool.false_ne_true

/-- The item that shows the branch at a way. -/
def shown (way : List String) (branch : Branch) : TreeItem :=
  showBranch (way.getLastD "") (pathOf way) branch

theorem showAll_eq_map (way : List String) (children : Fields Branch) :
    showAll (pathOf way) children = children.map fun pair => shown (way ++ [pair.1]) pair.2 := by
  induction children with
  | nil => rfl
  | cons pair rest ih =>
    obtain ⟨name, branch⟩ := pair
    rw [showAll, ih, List.map_cons, shown, pathOf_concat]
    simp

variable {way : List String} {branch : Branch}

theorem isFolder_shown : isFolder (shown way branch) = branch.isFolder := by
  cases branch <;> rfl

theorem itemName_shown : itemName (shown way branch) = way.getLastD "" := by
  cases branch <;> rfl

theorem path_shown : (shown way branch).path = pathOf way := by
  cases branch <;> rfl

theorem way_shown (plain : ∀ segment ∈ way, IsSegment segment) : (shown way branch).way = way := by
  rw [TreeItem.way, path_shown, ← segments_eq_wayOf, segments_pathOf plain]

theorem children_shown (way : List String) (children : Fields Branch) :
    (shown way (.folder children)).children = arrange (children.map fun pair => shown (way ++ [pair.1]) pair.2) := by
  rw [← showAll_eq_map]
  rfl

/-- What the display of a folder lists is what the folder knows by name. -/
theorem mem_children_shown {children : Fields Branch} (distinct : (Fields.keys children).Nodup) {item : TreeItem} :
    item ∈ (shown way (.folder children)).children ↔
      ∃ name next, Fields.get? children name = some next ∧ item = shown (way ++ [name]) next := by
  rw [children_shown, (perm_arrange _).mem_iff, List.mem_map]
  simp only [Prod.exists, Fields.get?_eq_some_iff_mem distinct, eq_comm]

theorem inOrder_children_shown (sound : branch.Sound) (way : List String) : InOrder (shown way branch).children := by
  cases sound with
  | file => exact ⟨List.nodup_nil, .nil, .nil⟩
  | @folder children distinct plain each =>
    rw [children_shown]
    refine inOrder_arrange ?_
    rw [List.map_map]
    have names : (children.map (itemName ∘ fun pair => shown (way ++ [pair.1]) pair.2)) = Fields.keys children :=
      List.map_congr_left fun pair _ => by simp [itemName_shown]
    rw [names]
    exact distinct

/-- What stands beneath the display of a branch shows what can be reached in it. -/
theorem mem_beneath_shown (sound : branch.Sound) {way : List String} {item : TreeItem} :
    item ∈ (shown way branch).beneath ↔
      ∃ rest found, rest ≠ [] ∧ branch.reach? rest = some found ∧ item = shown (way ++ rest) found := by
  induction sound generalizing way with
  | file =>
    refine iff_of_false List.not_mem_nil ?_
    rintro ⟨rest, found, filled, reached, _⟩
    cases rest with
    | nil => exact filled rfl
    | cons => cases reached
  | folder distinct plain each ih =>
    rw [TreeItem.mem_beneath]
    simp only [mem_children_shown distinct]
    constructor
    · rintro ⟨_, ⟨name, next, known, rfl⟩, here⟩
      rcases here with rfl | deeper
      · exact ⟨[name], next, List.cons_ne_nil name [], Option.bind_eq_some_iff.mpr ⟨next, known, rfl⟩, rfl⟩
      · obtain ⟨rest, found, filled, reached, rfl⟩ := (ih name next known).mp deeper
        refine ⟨name :: rest, found, List.cons_ne_nil name rest, ?_, by rw [List.append_assoc, List.singleton_append]⟩
        exact Option.bind_eq_some_iff.mpr ⟨next, known, reached⟩
    · rintro ⟨rest, found, filled, reached, rfl⟩
      cases rest with
      | nil => exact absurd rfl filled
      | cons name rest =>
        obtain ⟨next, known, reached⟩ := Option.bind_eq_some_iff.mp reached
        refine ⟨_, ⟨name, next, known, rfl⟩, ?_⟩
        cases rest with
        | nil =>
          cases next <;> cases reached <;> exact Or.inl rfl
        | cons segment later =>
          have longer : segment :: later ≠ [] := List.cons_ne_nil segment later
          refine Or.inr ((ih name next known).mpr ⟨segment :: later, found, longer, reached, ?_⟩)
          rw [List.append_assoc, List.singleton_append]

theorem perm_beneath_shown (way : List String) (children : Fields Branch) :
    (shown way (.folder children)).beneath.Perm (children.flatMap fun pair =>
      shown (way ++ [pair.1]) pair.2 :: (shown (way ++ [pair.1]) pair.2).beneath) := by
  rw [TreeItem.beneath_eq_flatMap, children_shown]
  refine ((perm_arrange _).flatMap_right _).trans ?_
  rw [List.flatMap_map]

theorem way_of_mem_beneath_shown (sound : branch.Sound) (plain : ∀ segment ∈ way, IsSegment segment)
    {other : List String} (member : other ∈ (shown way branch).beneath.map TreeItem.way) :
    ∃ rest, rest ≠ [] ∧ other = way ++ rest := by
  obtain ⟨_, beneath, rfl⟩ := List.mem_map.mp member
  obtain ⟨rest, found, filled, reached, rfl⟩ := (mem_beneath_shown sound).mp beneath
  exact ⟨rest, filled, way_shown (List.forall_mem_append.mpr ⟨plain, sound.isSegment reached⟩)⟩

/-- Everything is shown once. -/
theorem nodup_beneath_shown (sound : branch.Sound) {way : List String} (plain : ∀ segment ∈ way, IsSegment segment) :
    ((shown way branch).beneath.map TreeItem.way).Nodup := by
  induction sound generalizing way with
  | file => exact List.nodup_nil
  | @folder children distinct names each ih =>
    have known {pair : String × Branch} (member : pair ∈ children) : Fields.get? children pair.1 = some pair.2 :=
      (Fields.get?_eq_some_iff_mem distinct).mpr member
    have longer {pair : String × Branch} (member : pair ∈ children) :
        ∀ segment ∈ way ++ [pair.1], IsSegment segment :=
      List.forall_mem_append.mpr ⟨plain, List.forall_mem_singleton.mpr (names _ (List.mem_map_of_mem member))⟩
    have listed : ((shown way (.folder children)).beneath.map TreeItem.way).Perm
        (children.flatMap fun pair =>
          (way ++ [pair.1]) :: (shown (way ++ [pair.1]) pair.2).beneath.map TreeItem.way) := by
      refine ((perm_beneath_shown way children).map TreeItem.way).trans ?_
      rw [List.map_flatMap]
      refine List.Perm.of_eq (List.flatMap_congr fun pair member => ?_)
      rw [List.map_cons, way_shown (longer member)]
    rw [listed.nodup_iff, List.nodup_flatMap]
    constructor
    · intro pair member
      refine List.nodup_cons.mpr ⟨?_, ih _ _ (known member) (longer member)⟩
      intro again
      obtain ⟨rest, filled, same⟩ := way_of_mem_beneath_shown (each _ _ (known member)) (longer member) again
      exact filled (List.self_eq_append_right.mp same)
    · -- Children have names of their own, and the ways of what stands beneath them part at these names.
      have apart : children.Pairwise fun first second => first.1 ≠ second.1 := List.pairwise_map.mp distinct
      refine apart.imp_of_mem ?_
      intro first second here there differs other one two
      have begins {pair : String × Branch} (member : pair ∈ children)
          (within : other ∈ (way ++ [pair.1]) :: (shown (way ++ [pair.1]) pair.2).beneath.map TreeItem.way) :
          ∃ rest, other = way ++ pair.1 :: rest := by
        rcases List.mem_cons.mp within with rfl | deeper
        · exact ⟨[], rfl⟩
        · obtain ⟨rest, _, rfl⟩ := way_of_mem_beneath_shown (each _ _ (known member)) (longer member) deeper
          exact ⟨rest, by rw [List.append_assoc, List.singleton_append]⟩
      obtain ⟨rest, rfl⟩ := begins here one
      obtain ⟨tail, same⟩ := begins there two
      exact differs (List.cons_eq_cons.mp (List.append_cancel_left same)).1

theorem mem_dropRepeats {texts : List String} {text : String} : text ∈ dropRepeats texts ↔ text ∈ texts := by
  induction texts with
  | nil => rfl
  | cons first rest ih =>
    cases rest with
    | nil => rfl
    | cons next later =>
      rw [dropRepeats]
      split
      · rename_i same
        subst same
        simp [ih]
      · rw [List.mem_cons, ih]
        exact List.mem_cons.symm

theorem pairwise_dropRepeats {texts : List String} (sorted : texts.Pairwise fun a b => a ≤ b) :
    (dropRepeats texts).Pairwise fun a b => a < b := by
  induction texts with
  | nil => exact .nil
  | cons first rest ih =>
    cases rest with
    | nil => exact List.pairwise_singleton _ _
    | cons next later =>
      obtain ⟨before, ordered⟩ := List.pairwise_cons.mp sorted
      rw [dropRepeats]
      split
      · exact ih ordered
      · rename_i differs
        refine List.pairwise_cons.mpr ⟨fun text member => ?_, ih ordered⟩
        have least : first < next := lt_of_le_of_ne (before next List.mem_cons_self) differs
        rcases List.mem_cons.mp (mem_dropRepeats.mp member) with rfl | member
        · exact least
        · exact lt_of_lt_of_le least ((List.pairwise_cons.mp ordered).1 text member)

theorem mem_kept {excluded paths : List String} {path : String} :
    path ∈ kept excluded paths ↔ path ∈ paths ∧ path ∉ excluded := by
  rw [kept, List.mem_filter, mem_dropRepeats, List.mem_mergeSort]
  simp

theorem pairwise_kept (excluded paths : List String) : (kept excluded paths).Pairwise fun a b => a < b :=
  (pairwise_dropRepeats (Text.pairwise_mergeSort id paths)).filter _

/-- Neither the order nor the repetition of paths matters. -/
theorem kept_congr {paths others : List String} (same : ∀ path, path ∈ others ↔ path ∈ paths)
    (excluded : List String) : kept excluded others = kept excluded paths := by
  have nodup (given : List String) : (kept excluded given).Nodup := (pairwise_kept excluded given).imp ne_of_lt
  have perm : (kept excluded others).Perm (kept excluded paths) :=
    (List.perm_ext_iff_of_nodup (nodup others) (nodup paths)).mpr fun path => by rw [mem_kept, mem_kept, same]
  exact perm.eq_of_pairwise (fun a b _ _ first second => absurd (first.trans second) (lt_irrefl a))
    (pairwise_kept excluded others) (pairwise_kept excluded paths)

/-- What the tree of paths is made from. -/
def planting (paths excluded : List String) : Fields Branch :=
  ((kept excluded paths).foldl addPath ([], [])).1

theorem planted_planting (paths excluded : List String) :
    Planted (ways paths excluded) (planting paths excluded) := by
  have same : ways (kept excluded paths) [] = ways paths excluded := by
    ext way
    simp only [mem_ways, mem_kept, List.not_mem_nil, not_false_eq_true, true_and, and_assoc]
  rw [← same]
  exact planted_foldl _

/-- Whether a tree shows the given ways: each once, as a file unless it leads to another; all that lead to them as
folders; and everything in its place, with its name and path, and in order. The way of an item is read off its
path. -/
structure Faithful (ways : Set (List String)) (tree : TreeItem) : Prop where
  root : ∃ children, tree = .folder "" "/" children
  once : (tree.beneath.map TreeItem.way).Nodup
  file : ∀ way, (∃ item ∈ tree.beneath, isFolder item = false ∧ item.way = way) ↔
    way ∈ ways ∧ ¬ ∃ longer ∈ ways, Leads way longer
  folder : ∀ way, (∃ item ∈ tree.beneath, isFolder item = true ∧ item.way = way) ↔
    way ≠ [] ∧ ∃ longer ∈ ways, Leads way longer
  named : ∀ item ∈ tree.beneath, item.path = "/" ++ Text.join "/" item.way ∧ item.way.getLast? = some (itemName item)
  parent : ∀ item ∈ tree :: tree.beneath, ∀ child ∈ item.children, child.way = item.way ++ [itemName child]
  ordered : ∀ item ∈ tree :: tree.beneath, InOrder item.children

/-- A tree as it is displayed. -/
def display (children : Fields Branch) : TreeItem :=
  .folder "" "/" (shown [] (.folder children)).children

theorem build_eq_display (paths excluded : List String) :
    (build paths excluded).1 = display (planting paths excluded) :=
  rfl

theorem mem_beneath_display {children : Fields Branch} (sound : (Branch.folder children).Sound) {item : TreeItem} :
    item ∈ (display children).beneath ↔
      ∃ way found, way ≠ [] ∧ (Branch.folder children).reach? way = some found ∧ item = shown way found :=
  mem_beneath_shown sound

/-- The items of a display and the branches that they show. -/
theorem exists_item_display {children : Fields Branch} (sound : (Branch.folder children).Sound) {kind : Bool}
    {way : List String} : (∃ item ∈ (display children).beneath, isFolder item = kind ∧ item.way = way) ↔
      way ≠ [] ∧ ∃ found, (Branch.folder children).reach? way = some found ∧ found.isFolder = kind := by
  constructor
  · rintro ⟨item, member, alike, rfl⟩
    obtain ⟨way, found, filled, reached, rfl⟩ := (mem_beneath_display sound).mp member
    rw [way_shown (sound.isSegment reached)]
    exact ⟨filled, found, reached, isFolder_shown.symm.trans alike⟩
  · rintro ⟨filled, found, reached, alike⟩
    exact ⟨_, (mem_beneath_display sound).mpr ⟨way, found, filled, reached, rfl⟩, isFolder_shown.trans alike,
      way_shown (sound.isSegment reached)⟩

theorem way_of_mem_children_shown (sound : branch.Sound) (plain : ∀ segment ∈ way, IsSegment segment)
    {child : TreeItem} (listed : child ∈ (shown way branch).children) : child.way = way ++ [itemName child] := by
  cases sound with
  | file => exact absurd listed List.not_mem_nil
  | folder distinct names each =>
    obtain ⟨name, next, known, rfl⟩ := (mem_children_shown distinct).mp listed
    have named := names name (Fields.has_iff_mem_keys.mp (Option.isSome_of_eq_some known))
    rw [way_shown (List.forall_mem_append.mpr ⟨plain, List.forall_mem_singleton.mpr named⟩), itemName_shown,
      List.getLastD_concat]

/-- Every item of a display, its root too, has the way and the children of a branch. -/
theorem exists_branch_of_mem {children : Fields Branch} (sound : (Branch.folder children).Sound) {item : TreeItem}
    (member : item ∈ display children :: (display children).beneath) :
    ∃ way found, (Branch.folder children).reach? way = some found ∧ item.way = way ∧
      item.children = (shown way found).children := by
  rcases List.mem_cons.mp member with rfl | beneath
  · exact ⟨[], .folder children, rfl, wayOf_root, rfl⟩
  · obtain ⟨way, found, _, reached, rfl⟩ := (mem_beneath_display sound).mp beneath
    exact ⟨way, found, reached, way_shown (sound.isSegment reached), rfl⟩

theorem Planted.faithful {planted : Set (List String)} {children : Fields Branch} (grown : Planted planted children)
    (filled : [] ∉ planted) : Faithful planted (display children) where
  root := ⟨_, rfl⟩
  once := nodup_beneath_shown grown.sound nofun
  file way := by
    have here : (∃ found, (Branch.folder children).reach? way = some found ∧ found.isFolder = false) ↔
        IsFileAt children way :=
      ⟨fun ⟨found, reached, kind⟩ => by cases found <;> [exact reached; cases kind], fun file => ⟨.file, file, rfl⟩⟩
    rw [exists_item_display grown.sound, here, grown.file, grown.folder, not_or]
    grind
  folder way := by
    have here : (∃ found, (Branch.folder children).reach? way = some found ∧ found.isFolder = true) ↔
        IsFolderAt children way :=
      ⟨fun ⟨found, reached, kind⟩ => by cases found <;> [cases kind; exact ⟨_, reached⟩],
        fun ⟨_, folder⟩ => ⟨_, folder, rfl⟩⟩
    rw [exists_item_display grown.sound, here, grown.folder]
    grind
  named item member := by
    obtain ⟨way, found, filled, reached, rfl⟩ := (mem_beneath_display grown.sound).mp member
    rw [path_shown, itemName_shown, way_shown (grown.sound.isSegment reached), pathOf_eq_join filled]
    exact ⟨rfl, by rw [List.getLastD_eq_getLast?, List.getLast?_eq_some_getLast filled, Option.getD_some]⟩
  parent item member child listed := by
    obtain ⟨way, found, reached, same, lists⟩ := exists_branch_of_mem grown.sound member
    rw [lists] at listed
    rw [same]
    exact way_of_mem_children_shown (grown.sound.reach reached) (grown.sound.isSegment reached) listed
  ordered item member := by
    obtain ⟨way, found, reached, _, lists⟩ := exists_branch_of_mem grown.sound member
    rw [lists]
    exact inOrder_children_shown (grown.sound.reach reached) way

namespace Faithful

variable {ways : Set (List String)} {tree other : TreeItem} {item twin : TreeItem}

theorem way_root (faithful : Faithful ways tree) : tree.way = [] := by
  obtain ⟨children, rfl⟩ := faithful.root
  exact wayOf_root

theorem way_ne_nil (faithful : Faithful ways tree) (member : item ∈ tree.beneath) : item.way ≠ [] := by
  intro root
  have last := (faithful.named item member).2
  rw [root] at last
  cases last

theorem eq_of_way (faithful : Faithful ways tree) (here : item ∈ tree :: tree.beneath)
    (there : twin ∈ tree :: tree.beneath) (same : item.way = twin.way) : item = twin := by
  rcases List.mem_cons.mp here with rfl | here <;> rcases List.mem_cons.mp there with rfl | there
  · rfl
  · exact absurd (same.symm.trans faithful.way_root) (faithful.way_ne_nil there)
  · exact absurd (same.trans faithful.way_root) (faithful.way_ne_nil here)
  · exact List.inj_on_of_nodup_map faithful.once here there same

theorem label_eq (one : Faithful ways tree) (two : Faithful ways other) (here : item ∈ tree :: tree.beneath)
    (there : twin ∈ other :: other.beneath) (same : item.way = twin.way) :
    itemName item = itemName twin ∧ item.path = twin.path := by
  rcases List.mem_cons.mp here with rfl | here <;> rcases List.mem_cons.mp there with rfl | there
  · obtain ⟨_, rfl⟩ := one.root
    obtain ⟨_, rfl⟩ := two.root
    exact ⟨rfl, rfl⟩
  · exact absurd (same.symm.trans one.way_root) (two.way_ne_nil there)
  · exact absurd (same.trans two.way_root) (one.way_ne_nil here)
  · obtain ⟨path, last⟩ := one.named item here
    obtain ⟨others, final⟩ := two.named twin there
    rw [same] at path last
    exact ⟨Option.some.inj (last.symm.trans final), path.trans others.symm⟩

/-- Two trees that show the same ways have the same children of the same items. -/
theorem exists_child (one : Faithful ways tree) (two : Faithful ways other) (here : item ∈ tree :: tree.beneath)
    (there : twin ∈ other :: other.beneath) (same : item.way = twin.way) {child : TreeItem}
    (listed : child ∈ item.children) :
    ∃ image ∈ twin.children, image.way = child.way ∧ isFolder image = isFolder child := by
  have beneath : child ∈ tree.beneath := TreeItem.mem_beneath_iff_child.mpr ⟨item, here, listed⟩
  have found : ∃ image ∈ other.beneath, isFolder image = isFolder child ∧ image.way = child.way := by
    cases kind : isFolder child with
    | false => exact (two.file _).mpr ((one.file _).mp ⟨child, beneath, kind, rfl⟩)
    | true => exact (two.folder _).mpr ((one.folder _).mp ⟨child, beneath, kind, rfl⟩)
  obtain ⟨image, within, alike, ways⟩ := found
  obtain ⟨parent, above, listing⟩ := TreeItem.mem_beneath_iff_child.mp within
  have ends : parent.way ++ [itemName image] = item.way ++ [itemName child] := by
    rw [← two.parent parent above image listing, ← one.parent item here child listed, ways]
  have aligned : parent.way = twin.way := (List.append_inj_left' ends rfl).trans same
  cases two.eq_of_way above there aligned
  exact ⟨image, listing, ways, alike⟩

/-- A tree is known by the ways that it shows. -/
theorem unique (one : Faithful ways tree) (two : Faithful ways other) : tree = other := by
  -- Induction on the item: what stands at one way in both trees is the same, since its children are.
  have alike : ∀ item twin, item ∈ tree :: tree.beneath → twin ∈ other :: other.beneath → item.way = twin.way →
      isFolder twin = isFolder item → item = twin := by
    intro item
    induction item using TreeItem.induct with
    | file name path =>
      intro twin here there same kind
      obtain ⟨names, paths⟩ := label_eq one two here there same
      cases twin with
      | file => cases names; cases paths; rfl
      | folder => cases kind
    | folder name path children ih =>
      intro twin here there same kind
      obtain ⟨names, paths⟩ := label_eq one two here there same
      cases twin with
      | file => cases kind
      | folder label place others =>
        cases names
        cases paths
        have below {child : TreeItem} (listed : child ∈ children) : child ∈ tree :: tree.beneath :=
          List.mem_cons_of_mem _ (TreeItem.mem_beneath_iff_child.mpr ⟨_, here, listed⟩)
        have beside {child : TreeItem} (listed : child ∈ others) : child ∈ other :: other.beneath :=
          List.mem_cons_of_mem _ (TreeItem.mem_beneath_iff_child.mpr ⟨_, there, listed⟩)
        have members (child : TreeItem) : child ∈ children ↔ child ∈ others := by
          constructor
          · intro listed
            obtain ⟨image, listing, ways, kind⟩ := exists_child one two here there same listed
            rw [ih child listed image (below listed) (beside listing) ways.symm kind]
            exact listing
          · intro listed
            obtain ⟨image, listing, ways, kind⟩ := exists_child two one there here same.symm listed
            rw [← ih image listing child (below listing) (beside listed) ways kind.symm]
            exact listing
        have lists : children = others := (one.ordered _ here).unique (two.ordered _ there) members
        rw [lists]
  have folders : isFolder other = isFolder tree := by
    obtain ⟨_, rfl⟩ := one.root
    obtain ⟨_, rfl⟩ := two.root
    rfl
  exact alike tree other List.mem_cons_self List.mem_cons_self (one.way_root.trans two.way_root.symm) folders

end Faithful

theorem faithful_build (paths excluded : List String) :
    Faithful (ways paths excluded) (build paths excluded).1 :=
  (planted_planting paths excluded).faithful fun ⟨filled, _⟩ => filled rfl

/-- The tree of paths is the one that shows their ways, and neither order nor repetition of the paths matters. -/
theorem build_faithful (paths excluded : List String) :
    (∀ tree, tree = (build paths excluded).1 ↔ Faithful (ways paths excluded) tree) ∧
      ∀ others, (∀ path, path ∈ others ↔ path ∈ paths) → build others excluded = build paths excluded := by
  refine ⟨fun tree => ⟨?_, fun faithful => faithful.unique (faithful_build paths excluded)⟩, ?_⟩
  · rintro rfl
    exact faithful_build paths excluded
  · intro others same
    rw [build, build, kept_congr same]

/-- Paths of which one leads to another and two go the same way, given in two orders. -/
theorem build_faithful_crossing :
    Faithful (ways ["/a", "/a/b", "a//b/"] []) (build ["/a", "/a/b", "a//b/"] []).1 ∧
      build ["a//b/", "/a", "/a/b", "/a"] [] = build ["/a", "/a/b", "a//b/"] [] :=
  ⟨((build_faithful _ _).1 _).mp rfl, (build_faithful _ _).2 _ fun path => by grind⟩

end Tree

end Workbench
