import Workbench.Proofs.Files.Index
import Workbench.Proofs.Files.Way
import Workbench.Proofs.Text.Cut

namespace Workbench

namespace Text

variable {mark : Char} {cs rest piece : List Char} {later : List (List Char)}

theorem exists_piecesOf (mark : Char) (cs : List Char) : ∃ piece later, piecesOf mark cs = piece :: later := by
  rw [piecesOf_eq_splitOn]
  exact List.exists_cons_of_ne_nil (List.splitOn_ne_nil mark cs)

/-- What holds no mark belongs to the first piece. -/
theorem piecesOf_append (free : mark ∉ cs) (cut : piecesOf mark rest = piece :: later) :
    piecesOf mark (cs ++ rest) = (cs ++ piece) :: later := by
  induction cs with
  | nil => exact cut
  | cons c cs ih =>
    obtain ⟨differs, free⟩ := not_or.mp (List.mem_cons.not.mp free)
    rw [List.cons_append, piecesOf, ih free]
    simp [Ne.symm differs]

theorem piecesOf_mark (mark : Char) (rest : List Char) : piecesOf mark (mark :: rest) = [] :: piecesOf mark rest := by
  obtain ⟨piece, later, cut⟩ := exists_piecesOf mark rest
  simp [piecesOf, cut]

theorem piecesOf_cut (free : mark ∉ cs) (rest : List Char) :
    piecesOf mark (cs ++ mark :: rest) = cs :: piecesOf mark rest := by
  rw [piecesOf_append free (piecesOf_mark mark rest), List.append_nil]

theorem piecesOf_of_free (free : mark ∉ cs) : piecesOf mark cs = [cs] := by
  have whole := piecesOf_append free (show piecesOf mark [] = [[]] from rfl)
  rwa [List.append_nil] at whole

end Text

namespace Index

/-- The entities that stand for characters with a meaning of their own in markup. -/
def entities : List (List Char) :=
  ["&amp;".toList, "&lt;".toList, "&gt;".toList, "&quot;".toList, "&#x27;".toList]

/-- Text without markup: it is made of entities and of characters that have no meaning of their own. -/
inductive Inert : List Char → Prop
  | nil : Inert []
  | plain {c : Char} {cs : List Char} : c ∉ ['&', '<', '>', '"', '\''] → Inert cs → Inert (c :: cs)
  | entity {name cs : List Char} : name ∈ entities → Inert cs → Inert (name ++ cs)

/-- The text that entities and characters stand for. -/
def unescape : List Char → List Char
  | '&' :: 'a' :: 'm' :: 'p' :: ';' :: rest => '&' :: unescape rest
  | '&' :: 'l' :: 't' :: ';' :: rest => '<' :: unescape rest
  | '&' :: 'g' :: 't' :: ';' :: rest => '>' :: unescape rest
  | '&' :: 'q' :: 'u' :: 'o' :: 't' :: ';' :: rest => '"' :: unescape rest
  | '&' :: '#' :: 'x' :: '2' :: '7' :: ';' :: rest => '\'' :: unescape rest
  | c :: rest => c :: unescape rest
  | [] => []

/-- What stands behind each opening of a tag, up to the next. -/
def tags (cs : List Char) : List (List Char) :=
  (Text.piecesOf '<' cs).tail

def opensItem (tag : List Char) : Bool :=
  (Text.dropLead? "li>".toList tag).isSome

/-- The target and the label of a link, read from its opening tag and the text behind it. -/
def link? (tag : List Char) : Option (String × String) :=
  (Text.dropLead? "a href=\"".toList tag).bind fun rest =>
    match Text.piecesOf '"' rest with
    | [target, '>' :: label] => some (String.ofList (unescape target), String.ofList (unescape label))
    | _ => none

/-- The links of a page with their labels. -/
def links (page : String) : List (String × String) :=
  (tags page.toList).filterMap link?

/-- How many items a page has. -/
def itemCount (page : String) : ℕ :=
  (tags page.toList).countP opensItem

variable {cs rest : List Char}

theorem unescape_entity (c : Char) (rest : List Char) : unescape (entity c ++ rest) = c :: unescape rest := by
  unfold entity
  split_ifs with amp lt gt quot apos
  · subst amp; rfl
  · subst lt; rfl
  · subst gt; rfl
  · subst quot; rfl
  · subst apos; rfl
  · rw [List.singleton_append, unescape.eq_def]
    split <;> simp_all

theorem unescape_escape (path : String) : unescape (escape path).toList = path.toList := by
  rw [escape, String.toList_ofList]
  induction path.toList with
  | nil => rfl
  | cons c rest ih => rw [List.flatMap_cons, unescape_entity, ih]

theorem inert_escape (path : String) : Inert (escape path).toList := by
  rw [escape, String.toList_ofList]
  induction path.toList with
  | nil => exact .nil
  | cons c rest ih =>
    rw [List.flatMap_cons, entity]
    split_ifs with amp lt gt quot apos
    iterate 5 exact .entity (by simp [entities]) ih
    exact .plain (by simp [amp, lt, gt, quot, apos]) ih

/-- No character of inert text opens or closes a tag or a quotation. -/
theorem Inert.notMem (inert : Inert cs) {c : Char} (special : c ∈ ['<', '>', '"', '\'']) : c ∉ cs := by
  induction inert with
  | nil => exact List.not_mem_nil
  | plain ordinary _ ih =>
    refine List.not_mem_cons_of_ne_of_not_mem ?_ ih
    rintro rfl
    exact ordinary (List.mem_cons_of_mem _ special)
  | entity known _ ih =>
    rw [List.mem_append, not_or]
    refine ⟨?_, ih⟩
    fin_cases known <;> fin_cases special <;> decide

/-- What stands before the first tag is of no consequence. -/
theorem tags_append (free : '<' ∉ cs) (rest : List Char) : tags (cs ++ rest) = tags rest := by
  obtain ⟨piece, later, cut⟩ := Text.exists_piecesOf '<' rest
  rw [tags, tags, Text.piecesOf_append free cut, cut, List.tail_cons, List.tail_cons]

/-- Tags are found one after another, and what follows belongs to the last up to the next tag. -/
theorem exists_tags {marked : List (List Char)} (free : ∀ tag ∈ marked, '<' ∉ tag) (last : '<' ∉ cs)
    (rest : List Char) :
    ∃ piece, tags (marked.flatMap ('<' :: ·) ++ '<' :: (cs ++ rest)) = marked ++ (cs ++ piece) :: tags rest := by
  obtain ⟨piece, later, cut⟩ := Text.exists_piecesOf '<' rest
  refine ⟨piece, ?_⟩
  induction marked with
  | nil =>
    rw [List.flatMap_nil, List.nil_append, tags, Text.piecesOf_mark, List.tail_cons, Text.piecesOf_append last cut,
      List.nil_append, tags, cut, List.tail_cons]
  | cons tag marked ih =>
    obtain ⟨own, free⟩ := List.forall_mem_cons.mp free
    obtain ⟨after, next⟩ : ∃ after, marked.flatMap ('<' :: ·) ++ '<' :: (cs ++ rest) = '<' :: after := by
      cases marked <;> simp
    have found := ih free
    rw [next, tags, Text.piecesOf_mark, List.tail_cons] at found
    rw [List.flatMap_cons, List.append_assoc, next, List.cons_append, tags, Text.piecesOf_mark, List.tail_cons,
      Text.piecesOf_cut own, found, List.cons_append]

/-- The inside of the tag of a link to a path, and its label. -/
def anchor (path : String) : List Char :=
  "a href=\"".toList ++ ((escape path).toList ++ '"' :: '>' :: (escape path).toList)

theorem link?_anchor (path : String) : link? (anchor path) = some (path, path) := by
  have inert := inert_escape path
  have free : '"' ∉ (escape path).toList := inert.notMem (by simp)
  have label : Text.piecesOf '"' ('>' :: (escape path).toList) = ['>' :: (escape path).toList] :=
    Text.piecesOf_of_free (by simp [free])
  have opened : Text.dropLead? "a href=\"".toList (anchor path) =
      some ((escape path).toList ++ '"' :: '>' :: (escape path).toList) := Text.dropLead?_eq_some_iff.mpr rfl
  rw [link?, opened, Option.bind_some, Text.piecesOf_cut free, label]
  simp only [unescape_escape, String.ofList_toList]

theorem toList_item (path : String) : (item path).toList =
    "    ".toList ++ (["li>".toList, anchor path, "/a>".toList].flatMap ('<' :: ·) ++ '<' :: "/li>".toList) := by
  have lead : "    <li><a href=\"".toList = "    ".toList ++ '<' :: ("li>".toList ++ '<' :: "a href=\"".toList) := rfl
  have between : "\">".toList = ['"', '>'] := rfl
  have close : "</a></li>".toList = '<' :: ("/a>".toList ++ '<' :: "/li>".toList) := rfl
  unfold item anchor
  simp only [String.toList_append, lead, between, close, List.flatMap_cons, List.flatMap_nil, List.append_assoc,
    List.cons_append, List.nil_append]

theorem notMem_anchor (path : String) : '<' ∉ anchor path := by
  have free : '<' ∉ (escape path).toList := (inert_escape path).notMem (by simp)
  have lead : '<' ∉ "a href=\"".toList := by decide
  unfold anchor
  simp only [List.mem_append, List.mem_cons, free, lead, not_or]
  decide

/-- An item is one item with one link, whatever comes before the next tag. -/
theorem exists_tags_item (path : String) (rest : List Char) : ∃ piece, tags ((item path).toList ++ rest) =
    ["li>".toList, anchor path, "/a>".toList] ++ ("/li>".toList ++ piece) :: tags rest := by
  have within : ∀ tag ∈ ["li>".toList, anchor path, "/a>".toList], '<' ∉ tag :=
    List.forall_mem_cons.mpr ⟨by decide, List.forall_mem_cons.mpr ⟨notMem_anchor path, by simp⟩⟩
  obtain ⟨piece, found⟩ := exists_tags within (by decide : '<' ∉ "/li>".toList) rest
  have lead : '<' ∉ "    ".toList := by decide
  refine ⟨piece, ?_⟩
  rw [toList_item, List.append_assoc, tags_append lead, List.append_assoc, List.cons_append, found]

/-- What the tags of a page show: its links and how many items it has. -/
def shows (found : List (List Char)) : List (String × String) × ℕ :=
  (found.filterMap link?, found.countP opensItem)

theorem shows_append (front back : List (List Char)) :
    shows (front ++ back) = ((shows front).1 ++ (shows back).1, (shows front).2 + (shows back).2) := by
  rw [shows, List.filterMap_append, List.countP_append]
  rfl

/-- A tag that is neither that of a link nor that of an item adds nothing. -/
theorem shows_cons {tag : List Char} (unlinked : link? tag = none) (closed : opensItem tag = false)
    (later : List (List Char)) : shows (tag :: later) = shows later := by
  simp only [shows, List.filterMap_cons, List.countP_cons, unlinked, closed]
  rfl

theorem shows_item (path : String) (rest : List Char) :
    shows (tags ((item path).toList ++ rest)) = ((path, path) :: (shows (tags rest)).1, (shows (tags rest)).2 + 1) := by
  obtain ⟨piece, found⟩ := exists_tags_item path rest
  have opening : shows ["li>".toList, anchor path, "/a>".toList] = ([(path, path)], 1) := by
    have others : link? "li>".toList = none ∧ link? "/a>".toList = none := ⟨rfl, rfl⟩
    have items : opensItem "li>".toList = true ∧ opensItem (anchor path) = false ∧ opensItem "/a>".toList = false :=
      ⟨rfl, rfl, rfl⟩
    simp only [shows, List.filterMap_cons, List.countP_cons, others, items, link?_anchor]
    rfl
  rw [found, shows_append, opening, shows_cons rfl rfl, Nat.add_comm, List.singleton_append]

/-- Items joined by line breaks show as many items, each with its link. -/
theorem shows_items (paths : List String) {rest : List Char} (closing : shows (tags rest) = ([], 0)) :
    shows (tags ((Text.join "\n" (paths.map item)).toList ++ rest)) =
      (paths.map fun path => (path, path), paths.length) := by
  induction paths with
  | nil => simpa [Text.join] using closing
  | cons path later ih =>
    cases later with
    | nil => rw [List.map_singleton, Text.join, shows_item, closing]; rfl
    | cons next later =>
      have broken : (Text.join "\n" ((path :: next :: later).map item)).toList ++ rest =
          (item path).toList ++ ("\n".toList ++ ((Text.join "\n" ((next :: later).map item)).toList ++ rest)) := by
        simp only [List.map_cons, Text.join, String.toList_append, List.append_assoc]
      rw [broken, shows_item, tags_append (by decide), ih]
      rfl

/-- The tags before the list of items. -/
def headTags : List (List Char) := [
  "!DOCTYPE html>\n".toList, "html>\n".toList, "head>".toList, "meta charset=\"utf-8\">".toList,
  "title>LIA Studio".toList, "/title>".toList, "/head>\n".toList, "body>\n  ".toList,
  "h1>Virtual File System".toList, "/h1>\n  ".toList]

theorem toList_pageHead : pageHead.toList = headTags.flatMap ('<' :: ·) ++ '<' :: "ul>\n".toList := by
  unfold pageHead
  rw [String.toList_append]
  decide +kernel

theorem shows_head {rest : List Char} : shows (tags (pageHead.toList ++ rest)) = shows (tags rest) := by
  have free : ∀ tag ∈ headTags, '<' ∉ tag := by decide +kernel
  obtain ⟨piece, found⟩ := exists_tags free (by decide : '<' ∉ "ul>\n".toList) rest
  have head : shows headTags = ([], 0) := by decide +kernel
  rw [toList_pageHead, List.append_assoc, List.cons_append, found, shows_append, head, shows_cons rfl rfl,
    List.nil_append, Nat.zero_add]

/-- A page shows one item for each path that it lists, with its link. -/
theorem shows_page (paths : List String) : shows (tags (page paths).toList) =
    ((listed paths).map fun path => (path, path), (listed paths).length) := by
  have foot : shows (tags pageFoot.toList) = ([], 0) := by decide +kernel
  rw [page, String.toList_append, String.toList_append, List.append_assoc, shows_head, shows_items _ foot]

theorem links_page (paths : List String) : links (page paths) = (listed paths).map fun path => (path, path) := by
  have shown := shows_page paths
  rw [shows, Prod.mk.injEq] at shown
  exact shown.1

theorem itemCount_page (paths : List String) : itemCount (page paths) = (listed paths).length := by
  have shown := shows_page paths
  rw [shows, Prod.mk.injEq] at shown
  exact shown.2

/-- The page encodes the paths that it lists, and nothing that a path holds is taken for markup. -/
theorem page_faithful :
    (∀ paths, ∃ listing : List String, listing.Pairwise (· ≤ ·) ∧
      listing.Perm (paths.filter fun path => path ≠ Store.previewRoot) ∧
      (∃ texts : List String, (∀ text ∈ texts, Inert text.toList) ∧
        page paths = pageHead ++ Text.join "\n" (texts.map fun text =>
          "    <li><a href=\"" ++ text ++ "\">" ++ text ++ "</a></li>") ++ pageFoot) ∧
      itemCount (page paths) = listing.length ∧ links (page paths) = listing.map fun path => (path, path)) ∧
    (∀ paths others, page paths = page others ↔
      (paths.filter fun path => path ≠ Store.previewRoot).Perm
        (others.filter fun path => path ≠ Store.previewRoot)) ∧
    ∀ store other : Store,
      (∃ path, path ≠ Store.previewRoot ∧ Fields.has store path ≠ Fields.has other path) →
        page (Store.paths store) ≠ page (Store.paths other) := by
  have same {paths others : List String} (equal : page paths = page others) : listed paths = listed others := by
    have found := congrArg links equal
    rw [links_page, links_page] at found
    exact List.map_injective_iff.mpr (fun _ _ pair => congrArg Prod.fst pair) found
  refine ⟨fun paths => ?_, fun paths others => ?_, fun store other differ equal => ?_⟩
  · refine ⟨listed paths, pairwise_listed paths, listed_perm paths, ?_, itemCount_page paths, links_page paths⟩
    refine ⟨(listed paths).map escape, ?_, ?_⟩
    · intro text member
      obtain ⟨path, _, rfl⟩ := List.mem_map.mp member
      exact inert_escape path
    · rw [page, List.map_map]
      rfl
  · constructor
    · intro equal
      exact (listed_perm paths).symm.trans (same equal ▸ listed_perm others)
    · intro perm
      rw [page, page, listed_eq_of_perm perm]
  · obtain ⟨path, another, differ⟩ := differ
    have known (store : Store) : Fields.has store path = true ↔ path ∈ listed (Store.paths store) := by
      rw [listed_paths, (listed_perm _).mem_iff, List.mem_filter, Fields.has_iff_mem_keys]
      simp [another]
    exact differ (Bool.eq_iff_iff.mpr ((known store).trans (same equal ▸ (known other).symm)))

/-- A path that holds an entity is not taken for the path that holds its character. -/
theorem page_faithful_marked :
    Fields.has ([("/b&lt;", .text "")] : Store) "/b<" ≠ Fields.has ([("/b<", .text "")] : Store) "/b<" ∧
      page (Store.paths [("/b&lt;", .text "")]) ≠ page (Store.paths [("/b<", .text "")]) :=
  have differ : Fields.has ([("/b&lt;", .text "")] : Store) "/b<" ≠ Fields.has ([("/b<", .text "")] : Store) "/b<" := by
    decide
  ⟨differ, page_faithful.2.2 [("/b&lt;", .text "")] [("/b<", .text "")] ⟨"/b<", by decide, differ⟩⟩

end Index

end Workbench
