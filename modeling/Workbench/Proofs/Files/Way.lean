import Mathlib
import Workbench.Files.Tree

namespace Workbench

namespace Text

theorem piecesOf_eq_splitOn (mark : Char) (cs : List Char) : piecesOf mark cs = cs.splitOn mark := by
  induction cs with
  | nil => rfl
  | cons c rest ih =>
    obtain ⟨piece, pieces, whole⟩ := List.exists_cons_of_ne_nil (List.splitOn_ne_nil mark rest)
    by_cases same : c = mark <;> simp [piecesOf, ih, whole, List.splitOn_cons_eq_if_modifyHead, same]

theorem notMem_of_mem_piecesOf {mark : Char} {cs piece : List Char} (member : piece ∈ piecesOf mark cs) :
    mark ∉ piece := by
  induction cs generalizing piece with
  | nil => simp_all [piecesOf]
  | cons c rest ih =>
    obtain ⟨first, later, whole⟩ := List.exists_cons_of_ne_nil (List.splitOn_ne_nil mark rest)
    rw [← piecesOf_eq_splitOn] at whole
    rw [whole] at ih
    obtain ⟨head, tail⟩ := List.forall_mem_cons.mp fun piece member => @ih piece member
    simp only [piecesOf, whole] at member
    split at member
    · rcases List.mem_cons.mp member with rfl | member
      · exact List.not_mem_nil
      · exact ih member
    · rename_i other
      rcases List.mem_cons.mp member with rfl | member
      · exact List.not_mem_cons_of_ne_of_not_mem (Ne.symm other) head
      · exact tail piece member

theorem toList_join (texts : List String) :
    (join "/" texts).toList = ['/'].intercalate (texts.map String.toList) := by
  induction texts with
  | nil => rfl
  | cons s rest ih =>
    cases rest with
    | nil => simp [join]
    | cons next later => simp [join, ih, String.toList_append]

end Text

namespace Tree

/-- The way of a path: what stands between its slashes, but for what is empty. -/
def wayOf (path : String) : List String :=
  ((path.toList.splitOn '/').filter (· ≠ [])).map String.ofList

/-- The segments of a path are its way. -/
theorem segments_eq_wayOf (path : String) : segments path = wayOf path := by
  simp only [segments, wayOf, Text.pieces, Text.piecesOf_eq_splitOn, List.filter_map]
  congr 2
  funext cs
  simp

/-- Whether a text can be a segment of a path. -/
def IsSegment (s : String) : Prop :=
  s ≠ "" ∧ '/' ∉ s.toList

/-- The path of a way, which is empty at the root. -/
def pathOf (way : List String) : String :=
  way.foldl (fun location segment => location ++ "/" ++ segment) ""

theorem isSegment_of_mem {path segment : String} (member : segment ∈ segments path) : IsSegment segment := by
  obtain ⟨piece, filled⟩ := List.mem_filter.mp member
  obtain ⟨cs, found, rfl⟩ := List.mem_map.mp piece
  refine ⟨by simpa using filled, ?_⟩
  rw [String.toList_ofList]
  exact Text.notMem_of_mem_piecesOf found

theorem pathOf_concat (way : List String) (segment : String) :
    pathOf (way ++ [segment]) = pathOf way ++ "/" ++ segment := by
  simp only [pathOf, List.foldl_append, List.foldl_cons, List.foldl_nil]

theorem join_concat {way : List String} (filled : way ≠ []) (segment : String) :
    Text.join "/" (way ++ [segment]) = Text.join "/" way ++ "/" ++ segment := by
  induction way with
  | nil => exact absurd rfl filled
  | cons first rest ih =>
    cases rest with
    | nil => rfl
    | cons next later =>
      have spelled : Text.join "/" (first :: next :: later ++ [segment]) =
          first ++ "/" ++ Text.join "/" (next :: later ++ [segment]) := rfl
      rw [spelled, ih (List.cons_ne_nil next later)]
      simp only [Text.join, String.append_assoc]

theorem pathOf_eq_join {way : List String} (filled : way ≠ []) : pathOf way = "/" ++ Text.join "/" way := by
  induction way using List.reverseRecOn with
  | nil => exact absurd rfl filled
  | append_singleton earlier segment ih =>
    rw [pathOf_concat]
    by_cases first : earlier = []
    · subst first
      rfl
    · rw [ih first, join_concat first]
      simp only [String.append_assoc]

/-- A way is read back from its path. -/
theorem segments_pathOf {way : List String} (plain : ∀ segment ∈ way, IsSegment segment) :
    segments (pathOf way) = way := by
  by_cases root : way = []
  · subst root
    rfl
  · have apart : ∀ cs ∈ way.map String.toList, '/' ∉ cs := by
      intro cs member
      obtain ⟨segment, known, rfl⟩ := List.mem_map.mp member
      exact (plain segment known).2
    have cut : Text.pieces '/' (pathOf way) = "" :: way := by
      rw [pathOf_eq_join root, Text.pieces, Text.piecesOf_eq_splitOn, String.toList_append, Text.toList_join]
      have lead : "/".toList = ['/'] := rfl
      rw [lead, List.singleton_append, List.splitOn_cons_eq_if_modifyHead, if_pos (beq_self_eq_true '/'),
        List.splitOn_intercalate '/' apart (by simpa using root)]
      simp
    rw [segments, cut, List.filter_cons_of_neg (by simp), List.filter_eq_self]
    exact fun segment member => by simpa using (plain segment member).1

theorem wayOf_root : wayOf "/" = [] := by
  decide

end Tree

end Workbench
