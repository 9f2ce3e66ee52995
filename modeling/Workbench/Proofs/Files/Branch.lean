import Workbench.Proofs.Files.Index
import Workbench.Proofs.Files.Way

namespace Workbench

namespace Branch

def isFolder : Branch → Bool
  | .folder _ => true
  | .file => false

/-- The branch at the end of a way. -/
def reach? : Branch → List String → Option Branch
  | branch, [] => some branch
  | .file, _ :: _ => none
  | .folder children, segment :: rest => (Fields.get? children segment).bind fun branch => branch.reach? rest

/-- Whether all names in a branch are segments and differ from each other in every folder. -/
inductive Sound : Branch → Prop
  | file : Sound .file
  | folder {children : Fields Branch} (distinct : (Fields.keys children).Nodup)
      (plain : ∀ name ∈ Fields.keys children, Tree.IsSegment name)
      (each : ∀ name branch, Fields.get? children name = some branch → Sound branch) : Sound (.folder children)

variable {branch found : Branch} {way : List String}

theorem Sound.reach (sound : branch.Sound) (reached : branch.reach? way = some found) : found.Sound := by
  induction way generalizing branch with
  | nil =>
    cases branch <;> cases reached <;> exact sound
  | cons segment rest ih =>
    cases sound with
    | file => cases reached
    | folder distinct plain each =>
      obtain ⟨next, known, reached⟩ := Option.bind_eq_some_iff.mp reached
      exact ih (each segment next known) reached

theorem Sound.isSegment (sound : branch.Sound) (reached : branch.reach? way = some found) :
    ∀ segment ∈ way, Tree.IsSegment segment := by
  induction way generalizing branch with
  | nil => exact nofun
  | cons segment rest ih =>
    cases sound with
    | file => cases reached
    | folder distinct plain each =>
      obtain ⟨next, known, reached⟩ := Option.bind_eq_some_iff.mp reached
      have named := Fields.has_iff_mem_keys.mp (Option.isSome_of_eq_some known)
      exact List.forall_mem_cons.mpr ⟨plain segment named, ih (each segment next known) reached⟩

end Branch

namespace Tree

variable {children : Fields Branch} {way other : List String}

/-- Whether a way is passed on the way to somewhere else. -/
def Leads (start way : List String) : Prop :=
  start <+: way ∧ start ≠ way

def IsFolderAt (children : Fields Branch) (way : List String) : Prop :=
  ∃ inner, (Branch.folder children).reach? way = some (.folder inner)

def IsFileAt (children : Fields Branch) (way : List String) : Prop :=
  (Branch.folder children).reach? way = some .file

/-- What a folder holds below one of its names. -/
def inside (children : Fields Branch) (segment : String) : Fields Branch :=
  match children.get? segment with
  | some (.folder inner) => inner
  | _ => []

theorem insert_further (location segment next : String) (rest : List String) (children : Fields Branch) :
    (insert location (segment :: next :: rest) children).1 =
      children.put segment
        (.folder (insert (location ++ "/" ++ segment) (next :: rest) (inside children segment)).1) := by
  rw [insert, inside]
  cases children.get? segment with
  | none => rfl
  | some branch => cases branch <;> rfl

theorem leads_nil {segment : String} {rest : List String} : Leads [] (segment :: rest) :=
  ⟨List.nil_prefix, (List.cons_ne_nil segment rest).symm⟩

theorem leads_cons {segment head : String} {rest tail : List String} :
    Leads (segment :: rest) (head :: tail) ↔ segment = head ∧ Leads rest tail := by
  unfold Leads
  rw [List.cons_prefix_cons, and_assoc]
  refine and_congr_right fun same => and_congr_right fun _ => ?_
  rw [same, ne_eq, List.cons_inj_right]

theorem not_leads_nil : ¬ Leads way [] :=
  fun ⟨before, differs⟩ => differs (List.prefix_nil.mp before)

theorem isFolderAt_nil : IsFolderAt children [] :=
  ⟨children, rfl⟩

theorem isFolderAt_put {segment name : String} {branch : Branch} {rest : List String} :
    IsFolderAt (children.put segment branch) (name :: rest) ↔
      if segment = name then ∃ inner, branch.reach? rest = some (.folder inner)
      else IsFolderAt children (name :: rest) := by
  unfold IsFolderAt
  simp only [Branch.reach?, Fields.get?_put]
  split <;> simp

theorem isFileAt_put {segment name : String} {branch : Branch} {rest : List String} :
    IsFileAt (children.put segment branch) (name :: rest) ↔
      if segment = name then branch.reach? rest = some .file else IsFileAt children (name :: rest) := by
  unfold IsFileAt
  simp only [Branch.reach?, Fields.get?_put]
  split <;> simp

theorem not_isFolderAt_of_isFileAt (file : IsFileAt children way) : ¬ IsFolderAt children way :=
  fun ⟨_, folder⟩ => nomatch folder.symm.trans file

theorem isFileAt_iff_of_elsewhere (elsewhere : other = way → IsFolderAt children other) :
    IsFileAt children other ↔ (other = way ∨ IsFileAt children other) ∧ ¬ IsFolderAt children other := by
  refine ⟨fun file => ⟨Or.inr file, not_isFolderAt_of_isFileAt file⟩, ?_⟩
  rintro ⟨here | file, apart⟩
  · exact absurd (elsewhere here) apart
  · exact file

theorem isFolderAt_inside {segment : String} {rest : List String} :
    IsFolderAt (inside children segment) rest ↔ rest = [] ∨ IsFolderAt children (segment :: rest) := by
  cases rest with
  | nil => exact iff_of_true isFolderAt_nil (Or.inl rfl)
  | cons name later =>
    unfold IsFolderAt inside Branch.reach?
    cases Fields.get? children segment with
    | none => simp [Fields.get?]
    | some branch => cases branch <;> simp [Branch.reach?, Fields.get?]

theorem isFileAt_inside {segment : String} {rest : List String} :
    IsFileAt (inside children segment) rest ↔ rest ≠ [] ∧ IsFileAt children (segment :: rest) := by
  cases rest with
  | nil => simp [IsFileAt, Branch.reach?]
  | cons name later =>
    unfold IsFileAt inside Branch.reach?
    cases Fields.get? children segment with
    | none => simp [Fields.get?]
    | some branch => cases branch <;> simp [Branch.reach?, Fields.get?]

/-- A file goes where there is no folder, and so over nothing or over a file. -/
theorem insert_leaf (location leaf : String) (children : Fields Branch) :
    (insert location [leaf] children).1 = children ∧ IsFolderAt children [leaf] ∨
      (insert location [leaf] children).1 = children.put leaf .file ∧
        ∀ rest, ¬ IsFolderAt children (leaf :: rest) ∧ (IsFileAt children (leaf :: rest) → rest = []) := by
  unfold insert IsFolderAt IsFileAt
  cases known : Fields.get? children leaf with
  | none => exact Or.inr ⟨rfl, fun rest => by simp [Branch.reach?, known]⟩
  | some branch =>
    cases branch with
    | file => exact Or.inr ⟨rfl, fun rest => by cases rest <;> simp [Branch.reach?, known]⟩
    | folder inner => exact Or.inl ⟨rfl, inner, by simp [Branch.reach?, known]⟩

end Tree

theorem Branch.Sound.put {children : Fields Branch} {name : String} {branch : Branch}
    (sound : (Branch.folder children).Sound) (plain : Tree.IsSegment name) (grown : branch.Sound) :
    (Branch.folder (children.put name branch)).Sound := by
  cases sound with
  | folder distinct others each =>
    refine .folder (Fields.nodup_keys_put distinct name branch) ?_ ?_
    · intro other member
      rcases Fields.mem_keys_put.mp member with rfl | member
      · exact plain
      · exact others other member
    · intro other found known
      rw [Fields.get?_put] at known
      split at known
      · exact Option.some.inj known ▸ grown
      · exact each other found known

theorem Branch.Sound.inside {children : Fields Branch} (sound : (Branch.folder children).Sound) (segment : String) :
    (Branch.folder (Tree.inside children segment)).Sound := by
  unfold Tree.inside
  split
  · rename_i inner known
    cases sound with
    | folder _ _ each => exact each segment _ known
  · exact .folder List.nodup_nil nofun nofun

theorem Branch.Sound.insert {children : Fields Branch} {way : List String} (sound : (Branch.folder children).Sound)
    (plain : ∀ segment ∈ way, Tree.IsSegment segment) (location : String) :
    (Branch.folder (Tree.insert location way children).1).Sound := by
  induction way generalizing location children with
  | nil => exact sound
  | cons segment rest ih =>
    obtain ⟨first, later⟩ := List.forall_mem_cons.mp plain
    cases rest with
    | nil =>
      rcases Tree.insert_leaf location segment children with ⟨same, _⟩ | ⟨put, _⟩
      · rw [same]
        exact sound
      · rw [put]
        exact sound.put first .file
    | cons next rest =>
      rw [Tree.insert_further]
      exact sound.put first (ih (sound.inside segment) later _)

namespace Tree

variable {children : Fields Branch} {way other : List String}

/-- Putting a file somewhere makes folders of all that leads there, and of nothing else. -/
theorem isFolderAt_insert (filled : way ≠ []) (location : String) (children : Fields Branch) (other : List String) :
    IsFolderAt (insert location way children).1 other ↔ Leads other way ∨ IsFolderAt children other := by
  induction way generalizing location children other with
  | nil => exact absurd rfl filled
  | cons segment rest ih =>
    cases other with
    | nil => exact iff_of_true isFolderAt_nil (Or.inr isFolderAt_nil)
    | cons name later =>
      rw [leads_cons]
      cases rest with
      | nil =>
        have beside : ¬ (name = segment ∧ Leads later []) := fun ⟨_, leads⟩ => not_leads_nil leads
        rw [or_iff_right beside]
        rcases insert_leaf location segment children with ⟨same, _⟩ | ⟨put, free⟩
        · rw [same]
        · rw [put, isFolderAt_put]
          split
          · rename_i same
            subst same
            exact iff_of_false (by cases later <;> simp [Branch.reach?]) (free later).1
          · rfl
      | cons next rest =>
        rw [insert_further, isFolderAt_put]
        by_cases same : segment = name
        · subst same
          -- Where no folder stood a new one is empty, and only what leads on is a folder in it.
          have inner := ih (List.cons_ne_nil next rest) (location ++ "/" ++ segment) (inside children segment) later
          rw [if_pos rfl, ← IsFolderAt, inner, isFolderAt_inside, ← or_assoc]
          refine or_congr_left ⟨?_, fun ⟨_, leads⟩ => Or.inl leads⟩
          rintro (leads | rfl)
          · exact ⟨rfl, leads⟩
          · exact ⟨rfl, leads_nil⟩
        · rw [if_neg same]
          simp [Ne.symm same]

/-- What is put somewhere is a file there unless there is a folder, and a file elsewhere stays one unless it leads
there. -/
theorem isFileAt_insert (filled : way ≠ []) (location : String) (children : Fields Branch) (other : List String) :
    IsFileAt (insert location way children).1 other ↔
      (other = way ∨ IsFileAt children other) ∧ ¬ IsFolderAt (insert location way children).1 other := by
  induction way generalizing location children other with
  | nil => exact absurd rfl filled
  | cons segment rest ih =>
    cases other with
    | nil => exact iff_of_false nofun fun ⟨_, root⟩ => root isFolderAt_nil
    | cons name later =>
      cases rest with
      | nil =>
        rcases insert_leaf location segment children with ⟨same, folder⟩ | ⟨put, free⟩
        · rw [same]
          exact isFileAt_iff_of_elsewhere fun here => here ▸ folder
        · rw [put, isFolderAt_put, isFileAt_put]
          by_cases same : segment = name
          · subst same
            rw [if_pos rfl, if_pos rfl]
            cases later with
            | nil => simp [Branch.reach?]
            | cons _ _ =>
              refine iff_of_false nofun ?_
              rintro ⟨here | file, _⟩
              · exact List.cons_ne_nil _ _ (List.cons_inj_right _ |>.mp here)
              · exact List.cons_ne_nil _ _ ((free _).2 file)
          · rw [if_neg same, if_neg same]
            exact isFileAt_iff_of_elsewhere fun here => absurd (List.cons_eq_cons.mp here).1.symm same
      | cons next rest =>
        rw [insert_further, isFolderAt_put, isFileAt_put]
        by_cases same : segment = name
        · subst same
          have inner := ih (List.cons_ne_nil next rest) (location ++ "/" ++ segment) (inside children segment) later
          rw [if_pos rfl, if_pos rfl, ← IsFolderAt, ← IsFileAt, inner, isFileAt_inside, List.cons_inj_right]
          refine and_congr_left fun apart => or_congr_right (and_iff_right ?_)
          rintro rfl
          exact apart isFolderAt_nil
        · rw [if_neg same, if_neg same]
          exact isFileAt_iff_of_elsewhere fun here => absurd (List.cons_eq_cons.mp here).1.symm same

/-- The ways that a tree of paths shows: those that lead anywhere, of the paths that are not excluded. -/
def ways (paths excluded : List String) : Set (List String) :=
  {way | way ≠ [] ∧ ∃ path ∈ paths, path ∉ excluded ∧ wayOf path = way}

theorem mem_ways {paths excluded : List String} {way : List String} :
    way ∈ ways paths excluded ↔ way ≠ [] ∧ ∃ path ∈ paths, path ∉ excluded ∧ segments path = way := by
  simp only [ways, Set.mem_ofPred_eq, segments_eq_wayOf]

/-- Whether a folder has files at the given ways and folders at those that lead to them. -/
structure Planted (ways : Set (List String)) (children : Fields Branch) : Prop where
  sound : (Branch.folder children).Sound
  folder : ∀ way, IsFolderAt children way ↔ way = [] ∨ ∃ longer ∈ ways, Leads way longer
  file : ∀ way, IsFileAt children way ↔ way ∈ ways ∧ ¬ IsFolderAt children way

theorem Planted.insert {planted : Set (List String)} (before : Planted planted children) (filled : way ≠ [])
    (plain : ∀ segment ∈ way, IsSegment segment) : Planted (planted ∪ {way}) (insert "" way children).1 where
  sound := before.sound.insert plain ""
  folder other := by
    rw [isFolderAt_insert filled, before.folder]
    simp only [Set.union_singleton, Set.mem_insert_iff, exists_eq_or_imp]
    tauto
  file other := by
    rw [isFileAt_insert filled, isFolderAt_insert filled, before.file]
    simp only [Set.union_singleton, Set.mem_insert_iff]
    tauto

theorem planted_nil : Planted ∅ [] where
  sound := .folder List.nodup_nil nofun nofun
  folder way := by
    cases way with
    | nil => exact iff_of_true isFolderAt_nil (Or.inl rfl)
    | cons segment rest => exact iff_of_false (by simp [IsFolderAt, Branch.reach?, Fields.get?]) (by simp)
  file way := by
    cases way <;> simp [IsFileAt, Branch.reach?, Fields.get?]

theorem children_addPath (acc : Fields Branch × List Notice) (path : String) :
    (addPath acc path).1 = (insert "" (segments path) acc.1).1 := by
  unfold addPath
  cases segments path <;> rfl

theorem ways_concat (paths : List String) (path : String) :
    ways (paths ++ [path]) [] = if segments path = [] then ways paths [] else ways paths [] ∪ {segments path} := by
  ext way
  split <;> simp only [mem_ways, List.mem_append, List.mem_singleton, Set.mem_union, Set.mem_singleton_iff,
    List.not_mem_nil, not_false_eq_true, true_and, or_and_right, exists_or, exists_eq_left]
  · rename_i empty
    rw [empty]
    grind
  · rename_i filled
    grind

theorem planted_foldl (paths : List String) : Planted (ways paths []) (paths.foldl addPath ([], [])).1 := by
  induction paths using List.reverseRecOn with
  | nil =>
    have none : ways [] [] = ∅ := by simp [ways]
    rw [none]
    exact planted_nil
  | append_singleton earlier path ih =>
    rw [List.foldl_append, List.foldl_cons, List.foldl_nil, children_addPath, ways_concat]
    split
    · rename_i empty
      rw [empty]
      exact ih
    · rename_i filled
      exact ih.insert filled fun segment member => isSegment_of_mem member

end Tree

end Workbench
