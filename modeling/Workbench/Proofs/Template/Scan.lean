import Workbench.Fields
import Workbench.Proofs.Text.Cut
import Workbench.Template

namespace Workbench.Template

/-- Whether a text can name a parameter in a template. -/
def IsKey (key : String) : Prop :=
  key ≠ "" ∧ '%' ∉ key.toList

instance (key : String) : Decidable (IsKey key) :=
  inferInstanceAs (Decidable (_ ∧ _))

/-- The characters of the mark that stands for a parameter. -/
def mark (key : String) : List Char :=
  '%' :: '%' :: (key.toList ++ ['%', '%'])

/-- The first parameter whose mark a text begins with. -/
def lead? (texts : Fields String) (cs : List Char) : Option (String × String) :=
  texts.find? fun param => (mark param.1).isPrefixOf cs

/-- One scan of a template from left to right, in which every mark of a parameter gives way to its text and all else is
copied. The first argument counts the characters of the current mark that are still to be passed over. -/
def scan (texts : Fields String) : Nat → List Char → List Char
  | _, [] => []
  | skip + 1, _ :: rest => scan texts skip rest
  | 0, c :: rest =>
    match lead? texts (c :: rest) with
    | some (key, text) => text.toList ++ scan texts ((mark key).length - 1) rest
    | none => c :: scan texts 0 rest

/-- Put all texts into a template at once. -/
def substitute (template : String) (texts : Fields String) : String :=
  String.ofList (scan texts 0 template.toList)

variable {key other : String} {texts : Fields String} {front back before inner after cs : List Char}

theorem toList_placeholder (key : String) : (placeholder key).toList = mark key := by
  simp [placeholder, mark, String.toList_append]

theorem mark_injective : Function.Injective mark := by
  intro key other same
  have inner := (List.cons_eq_cons.mp (List.cons_eq_cons.mp same).2).2
  exact String.toList_inj.mp (List.append_cancel_right inner)

theorem count_mark (plain : IsKey key) : (mark key).count '%' = 4 := by
  simp [mark, List.count_append, List.count_eq_zero.mpr plain.2]

/-- Whatever a mark begins with, or ends with, holds a percent sign. -/
theorem mem_of_mark_eq_append (split : mark key = front ++ back) :
    (front ≠ [] → '%' ∈ front) ∧ (back ≠ [] → '%' ∈ back) := by
  constructor
  · intro filled
    obtain ⟨c, rest, rfl⟩ := List.exists_cons_of_ne_nil filled
    rw [(List.cons_eq_cons.mp split).1]
    exact List.mem_cons_self
  · intro filled
    have last : (mark key).getLast? = some '%' := by
      rw [mark, ← List.cons_append, ← List.cons_append, List.getLast?_append]
      rfl
    rw [split, List.getLast?_append_of_ne_nil _ filled] at last
    exact List.mem_of_getLast? last

/-- Around a mark within a mark there is no percent sign. -/
theorem notMem_around_mark (plain : IsKey key) (another : IsKey other) (split : mark key = before ++ (mark other ++ after)) :
    '%' ∉ before ∧ '%' ∉ after := by
  have counted := congrArg (List.count '%') split
  rw [List.count_append, List.count_append, count_mark plain, count_mark another] at counted
  exact ⟨List.count_eq_zero.mp (by omega), List.count_eq_zero.mp (by omega)⟩

theorem eq_of_mark_within (plain : IsKey key) (another : IsKey other) (within : mark other <:+: mark key) : other = key := by
  obtain ⟨before, after, split⟩ := within
  rw [List.append_assoc] at split
  obtain ⟨early, late⟩ := notMem_around_mark plain another split.symm
  have begins : before = [] := by
    by_contra filled
    exact early ((mem_of_mark_eq_append split.symm).1 filled)
  have ends : after = [] := by
    by_contra filled
    rw [← List.append_assoc] at split
    exact late ((mem_of_mark_eq_append split.symm).2 filled)
  rw [begins, ends, List.nil_append, List.append_nil] at split
  exact mark_injective split

theorem lead?_eq_none_iff : lead? texts cs = none ↔ ∀ key ∈ Fields.keys texts, ¬ mark key <+: cs := by
  simp only [lead?, List.find?_eq_none, List.isPrefixOf_iff_prefix, Fields.keys, List.forall_mem_map]

theorem mem_of_lead? {param : String × String} (found : lead? texts cs = some param) :
    param ∈ texts ∧ mark param.1 <+: cs := by
  have leads := List.find?_some found
  exact ⟨List.mem_of_find?_eq_some found, List.isPrefixOf_iff_prefix.mp leads⟩

/-- At every place there is the mark of one parameter at most. -/
theorem lead?_eq_some_iff (named : ∀ key ∈ Fields.keys texts, IsKey key) (distinct : (Fields.keys texts).Nodup)
    {param : String × String} : lead? texts cs = some param ↔ param ∈ texts ∧ mark param.1 <+: cs := by
  refine ⟨mem_of_lead?, fun ⟨member, leads⟩ => ?_⟩
  cases found : lead? texts cs with
  | none => exact absurd leads (lead?_eq_none_iff.mp found _ (List.mem_map_of_mem member))
  | some another =>
    obtain ⟨listed, begins⟩ := mem_of_lead? found
    have plain := named _ (List.mem_map_of_mem member)
    have plainly := named _ (List.mem_map_of_mem listed)
    have same : another.1 = param.1 := by
      rcases List.prefix_or_prefix_of_prefix begins leads with shorter | longer
      · exact eq_of_mark_within plain plainly shorter.isInfix
      · exact (eq_of_mark_within plainly plain longer.isInfix).symm
    rw [List.inj_on_of_nodup_map distinct listed member same]

theorem scan_skip (texts : Fields String) (skip : Nat) (cs : List Char) :
    scan texts skip cs = scan texts 0 (cs.drop skip) := by
  induction cs generalizing skip with
  | nil => simp [scan]
  | cons c rest ih =>
    cases skip with
    | zero => rfl
    | succ skip => rw [scan, ih, List.drop_succ_cons]

theorem scan_mark (named : ∀ key ∈ Fields.keys texts, IsKey key) (distinct : (Fields.keys texts).Nodup) {text : String}
    (member : (key, text) ∈ texts) (cs : List Char) :
    scan texts 0 (mark key ++ cs) = text.toList ++ scan texts 0 cs := by
  have found := (lead?_eq_some_iff named distinct).mpr ⟨member, List.prefix_append (mark key) cs⟩
  have spelled : mark key ++ cs = '%' :: ((mark key).tail ++ cs) := rfl
  rw [spelled] at found ⊢
  rw [scan, found]
  dsimp only
  rw [scan_skip, ← List.length_tail, List.drop_left]

theorem scan_mark_alone (named : ∀ key ∈ Fields.keys texts, IsKey key) (distinct : (Fields.keys texts).Nodup)
    {text : String} (member : (key, text) ∈ texts) : scan texts 0 (mark key) = text.toList := by
  have scanned := scan_mark named distinct member []
  rwa [List.append_nil, scan, List.append_nil] at scanned

/-- A text without marks is copied. -/
theorem scan_of_free (free : ∀ key ∈ Fields.keys texts, ¬ mark key <:+: cs) : scan texts 0 cs = cs := by
  induction cs with
  | nil => rfl
  | cons c rest ih =>
    have none : lead? texts (c :: rest) = none :=
      lead?_eq_none_iff.mpr fun key known leads => free key known leads.isInfix
    rw [scan, none, ih fun key known within => free key known (List.infix_cons within)]

/-- Whether no mark lies across the border between two texts. -/
def Parted (keys : List String) (front back : List Char) : Prop :=
  ∀ key ∈ keys, ∀ first last, mark key = first ++ last → first ≠ [] → last ≠ [] → first <:+ front → ¬ last <+: back

theorem parted_of_notMem_left (keys : List String) (free : '%' ∉ front) (back : List Char) : Parted keys front back := by
  intro key _ first last split filled _ ends _
  exact free (ends.mem ((mem_of_mark_eq_append split).1 filled))

theorem parted_of_notMem_right (keys : List String) (front : List Char) (free : '%' ∉ back) : Parted keys front back := by
  intro key _ first last split _ filled _ begins
  exact free (begins.mem ((mem_of_mark_eq_append split).2 filled))

/-- A scan goes through two texts one by one if no mark lies across their border. -/
theorem scan_append (parted : Parted (Fields.keys texts) front back) :
    scan texts 0 (front ++ back) = scan texts 0 front ++ scan texts 0 back := by
  have throughout (skip : Nat) (within : skip ≤ front.length) :
      scan texts skip (front ++ back) = scan texts skip front ++ scan texts 0 back := by
    induction front generalizing skip with
    | nil =>
      rw [Nat.le_zero.mp within]
      rfl
    | cons c rest ih =>
      have later : Parted (Fields.keys texts) rest back := fun key known first last split begun left ends =>
        parted key known first last split begun left (ends.trans (List.suffix_cons c rest))
      rw [List.cons_append]
      cases skip with
      | succ skip => exact ih later skip (Nat.le_of_succ_le_succ within)
      | zero =>
        -- A mark that leads the whole text is no longer than the front.
        have inside {key : String} (known : key ∈ Fields.keys texts) (leads : mark key <+: c :: rest ++ back) :
            mark key <+: c :: rest := by
          rcases Text.prefix_append_cases leads with short | ⟨last, begins, split⟩
          · exact short
          · by_cases left : last = []
            · rw [split, left, List.append_nil]
            · exact absurd begins (parted key known _ last split (List.cons_ne_nil c rest) left List.suffix_rfl)
        have same : lead? texts (c :: (rest ++ back)) = lead? texts (c :: rest) := by
          refine List.find?_congr fun param member => ?_
          rw [Bool.eq_iff_iff, List.isPrefixOf_iff_prefix, List.isPrefixOf_iff_prefix]
          exact ⟨inside (List.mem_map_of_mem member), fun leads => leads.trans (List.prefix_append _ back)⟩
        rw [scan, scan, same]
        cases found : lead? texts (c :: rest) with
        | none =>
          dsimp only
          rw [ih later 0 (Nat.zero_le _), List.cons_append]
        | some param =>
          have short := (mem_of_lead? found).2.length_le
          rw [List.length_cons] at short
          dsimp only
          rw [ih later _ (by omega), List.append_assoc]
  exact throughout 0 (Nat.zero_le _)

/-- What a text without percent signs stands around is scanned by itself. -/
theorem scan_between (texts : Fields String) (early : '%' ∉ before) (late : '%' ∉ after) (inner : List Char) :
    scan texts 0 (before ++ (inner ++ after)) = before ++ (scan texts 0 inner ++ after) := by
  have copied {given : List Char} (free : '%' ∉ given) : scan texts 0 given = given := by
    refine scan_of_free fun key _ within => free (within.mem ?_)
    exact List.mem_cons_self
  rw [scan_append (parted_of_notMem_left _ early _), scan_append (parted_of_notMem_right _ _ late), copied early,
    copied late]

/-- Whether a character occurs in no mark. -/
def Foreign (keys : List String) (c : Char) : Prop :=
  c ≠ '%' ∧ ∀ key ∈ keys, c ∉ key.toList

instance (keys : List String) (c : Char) : Decidable (Foreign keys c) :=
  inferInstanceAs (Decidable (_ ∧ _))

theorem Foreign.notMem_mark {keys : List String} {c : Char} (foreign : Foreign keys c) (known : key ∈ keys) :
    c ∉ mark key := by
  simp [mark, foreign.1, foreign.2 key known]

/-- A scan goes through the texts on both sides of a foreign character one by one. -/
theorem scan_append_foreign {c : Char} (foreign : Foreign (Fields.keys texts) c) (front back : List Char) :
    scan texts 0 (front ++ c :: back) = scan texts 0 front ++ c :: scan texts 0 back := by
  have border : Parted (Fields.keys texts) front (c :: back) := by
    intro key known first last split _ filled _ begins
    obtain ⟨d, rest, rfl⟩ := List.exists_cons_of_ne_nil filled
    rw [(List.cons_prefix_cons.mp begins).1] at split
    exact foreign.notMem_mark known (split ▸ List.mem_append_right _ List.mem_cons_self)
  have none : lead? texts (c :: back) = none := by
    refine lead?_eq_none_iff.mpr fun key known leads => ?_
    exact foreign.1 (List.cons_prefix_cons.mp leads).1.symm
  rw [scan_append border]
  congr 1
  rw [scan, none]

theorem scan_congr {others : Fields String} (alike : ∀ cs, lead? texts cs = lead? others cs) (skip : Nat)
    (cs : List Char) : scan texts skip cs = scan others skip cs := by
  induction cs generalizing skip with
  | nil => simp [scan]
  | cons c rest ih =>
    cases skip with
    | succ skip => rw [scan, scan, ih]
    | zero =>
      rw [scan, scan, alike]
      cases lead? others (c :: rest) with
      | none => exact congrArg (c :: ·) (ih 0)
      | some param => exact congrArg (param.2.toList ++ ·) (ih _)

/-- The order of texts does not matter to a scan. -/
theorem scan_perm {others : Fields String} (named : ∀ key ∈ Fields.keys texts, IsKey key)
    (distinct : (Fields.keys texts).Nodup) (perm : others.Perm texts) (cs : List Char) :
    scan others 0 cs = scan texts 0 cs := by
  have keys : (Fields.keys others).Perm (Fields.keys texts) := perm.map Prod.fst
  have alike (cs : List Char) : lead? others cs = lead? texts cs := by
    ext param
    rw [lead?_eq_some_iff named distinct,
      lead?_eq_some_iff (fun key member => named key (keys.mem_iff.mp member)) (keys.nodup_iff.mpr distinct),
      perm.mem_iff]
  exact scan_congr alike 0 cs

theorem replaceFrom_eq_scan (key text : String) (skip : Nat) (cs : List Char) :
    Text.replaceFrom (mark key) text.toList skip cs = scan [(key, text)] skip cs := by
  induction cs generalizing skip with
  | nil => simp [Text.replaceFrom, scan]
  | cons c rest ih =>
    cases skip with
    | succ skip => rw [Text.replaceFrom, scan, ih]
    | zero =>
      rw [Text.replaceFrom, scan, lead?, List.find?_singleton]
      by_cases leads : mark key <+: c :: rest
      · rw [if_pos (Text.isSome_dropLead?_iff.mpr leads), if_pos (List.isPrefixOf_iff_prefix.mpr leads), ih]
      · rw [if_neg (mt Text.isSome_dropLead?_iff.mp leads), if_neg (mt List.isPrefixOf_iff_prefix.mp leads), ih]

end Workbench.Template
