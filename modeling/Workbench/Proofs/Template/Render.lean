import Workbench.Proofs.Fields
import Workbench.Proofs.Template.Scan

namespace Workbench.Template

variable {key : String} {front back before inner after cs : List Char}

/-- The texts of parameters. -/
def textsOf (params : Fields Value) : Fields String :=
  params.mapValues paramText

/-- The texts of parameters, each with the parameters behind it put in. -/
def settled : Fields Value → Fields String
  | [] => []
  | (key, value) :: later => (key, render (paramText value) later) :: settled later

/-- A template with one parameter after another put in. -/
def passes (params : Fields Value) (cs : List Char) : List Char :=
  params.foldl (fun cs param => scan [(param.1, paramText param.2)] 0 cs) cs

theorem render_eq_passes (template : String) (params : Fields Value) :
    render template params = String.ofList (passes params template.toList) := by
  unfold render passes
  induction params generalizing template with
  | nil => simp
  | cons param later ih =>
    rw [List.foldl_cons, List.foldl_cons, ih, Text.replaceAll, String.toList_ofList, toList_placeholder,
      replaceFrom_eq_scan]

theorem toList_render (template : String) (params : Fields Value) :
    (render template params).toList = passes params template.toList := by
  rw [render_eq_passes, String.toList_ofList]

variable {params : Fields Value}

theorem passes_cons (value : Value) (cs : List Char) :
    passes ((key, value) :: params) cs = passes params (scan [(key, paramText value)] 0 cs) :=
  rfl

theorem passes_append_foreign {c : Char} (foreign : Foreign (Fields.keys params) c) (front back : List Char) :
    passes params (front ++ c :: back) = passes params front ++ c :: passes params back := by
  induction params generalizing front back with
  | nil => rfl
  | cons param later ih =>
    obtain ⟨key, value⟩ := param
    obtain ⟨here, others⟩ := List.forall_mem_cons.mp foreign.2
    have first : Foreign (Fields.keys [(key, paramText value)]) c := ⟨foreign.1, List.forall_mem_singleton.mpr here⟩
    rw [passes_cons, scan_append_foreign first, ih ⟨foreign.1, others⟩]
    rfl

theorem passes_between (params : Fields Value) (early : '%' ∉ before) (late : '%' ∉ after) (inner : List Char) :
    passes params (before ++ (inner ++ after)) = before ++ (passes params inner ++ after) := by
  induction params generalizing inner with
  | nil => rfl
  | cons param later ih => rw [passes_cons, scan_between _ early late, ih, passes_cons]

theorem passes_of_free (free : ∀ key ∈ Fields.keys params, ¬ mark key <:+: cs) : passes params cs = cs := by
  induction params with
  | nil => rfl
  | cons param later ih =>
    obtain ⟨key, value⟩ := param
    obtain ⟨here, others⟩ := List.forall_mem_cons.mp free
    have first : ∀ other ∈ Fields.keys [(key, paramText value)], ¬ mark other <:+: cs :=
      List.forall_mem_singleton.mpr here
    rw [passes_cons, scan_of_free first, ih others]

theorem keys_textsOf (params : Fields Value) : Fields.keys (textsOf params) = Fields.keys params := by
  simp [textsOf, Fields.mapValues, Fields.keys]

theorem keys_settled (params : Fields Value) : Fields.keys (settled params) = Fields.keys params := by
  induction params with
  | nil => rfl
  | cons param later ih => exact congrArg (param.1 :: ·) ih

/-- A mark alone becomes the text of its parameter with the later ones put in. -/
theorem passes_mark (named : ∀ key ∈ Fields.keys params, IsKey key) (distinct : (Fields.keys params).Nodup)
    {text : String} (member : (key, text) ∈ settled params) : passes params (mark key) = text.toList := by
  induction params with
  | nil => cases member
  | cons param later ih =>
    obtain ⟨first, value⟩ := param
    obtain ⟨plain, others⟩ := List.forall_mem_cons.mp named
    obtain ⟨fresh, distinct⟩ := List.nodup_cons.mp distinct
    rw [passes_cons]
    rcases List.mem_cons.mp member with same | member
    · cases same
      have alone : ∀ other ∈ Fields.keys [(key, paramText value)], IsKey other := List.forall_mem_singleton.mpr plain
      rw [scan_mark_alone alone (List.nodup_singleton _) List.mem_cons_self, toList_render]
    · have known : key ∈ Fields.keys later := keys_settled later ▸ List.mem_map_of_mem member
      have untouched : scan [(first, paramText value)] 0 (mark key) = mark key := by
        refine scan_of_free (List.forall_mem_singleton.mpr fun within => fresh ?_)
        rw [eq_of_mark_within (others key known) plain within]
        exact known
      rw [untouched, ih others distinct member]

/-- Whether between the mark of a parameter and any other percent sign of a template there is a character that occurs in
no mark. -/
def Apart (keys : List String) (template : List Char) : Prop :=
  ∀ key ∈ keys, ∀ before after, template = before ++ (mark key ++ after) →
    (∀ gap, '%' :: gap <:+ before → ∃ c ∈ gap, Foreign keys c) ∧
      ∀ gap, gap ++ ['%'] <+: after → ∃ c ∈ gap, Foreign keys c

theorem Apart.of_append {keys : List String} (apart : Apart keys (front ++ back)) : Apart keys front ∧ Apart keys back := by
  constructor
  · intro key known before after split
    obtain ⟨early, late⟩ := apart key known before (after ++ back) (by rw [split]; simp only [List.append_assoc])
    exact ⟨early, fun gap begins => late gap (begins.trans (List.prefix_append after back))⟩
  · intro key known before after split
    obtain ⟨early, late⟩ := apart key known (front ++ before) after (by rw [split, List.append_assoc])
    exact ⟨fun gap ends => early gap (ends.trans (List.suffix_append front before)), late⟩

/-- Where marks stand apart on both sides of a foreign character they do so together. -/
theorem apart_append_foreign {keys : List String} {c : Char} (foreign : Foreign keys c) (early : Apart keys front)
    (late : Apart keys back) : Apart keys (front ++ c :: back) := by
  intro key known before after split
  rcases List.append_eq_append_iff.mp split with ⟨rest, rfl, whole⟩ | ⟨rest, rfl, whole⟩
  · cases rest with
    | nil => exact absurd (List.cons_eq_cons.mp whole).1 foreign.1
    | cons first rest =>
      obtain ⟨rfl, rfl⟩ := List.cons_eq_cons.mp whole
      obtain ⟨earlier, later⟩ := late key known rest after rfl
      refine ⟨fun gap ends => ?_, later⟩
      rcases Text.suffix_or_mem ends with short | between
      · exact earlier gap short
      · exact ⟨c, (List.mem_cons.mp between).resolve_left foreign.1, foreign⟩
  · obtain ⟨rest, rfl⟩ := (Text.prefix_or_mem ⟨after, whole⟩).resolve_right (foreign.notMem_mark known)
    rw [List.append_assoc] at whole
    obtain rfl := List.append_cancel_left whole
    obtain ⟨earlier, later⟩ := early key known before rest rfl
    refine ⟨earlier, fun gap begins => ?_⟩
    rcases Text.prefix_or_mem begins with short | between
    · exact later gap short
    · exact ⟨c, (List.mem_append.mp between).resolve_right (by simp [foreign.1]), foreign⟩

theorem apart_mark {keys : List String} (named : ∀ key ∈ keys, IsKey key) (known : key ∈ keys) : Apart keys (mark key) := by
  intro other listed before after split
  obtain ⟨early, late⟩ := notMem_around_mark (named key known) (named other listed) split
  refine ⟨fun gap ends => ?_, fun gap begins => ?_⟩
  · exact absurd (ends.mem List.mem_cons_self) early
  · exact absurd (begins.mem (List.mem_append_right gap List.mem_cons_self)) late

/-- A text without foreign characters whose marks stand apart has no percent signs around a mark. -/
theorem Apart.notMem {keys : List String} (apart : Apart keys (before ++ (mark key ++ after))) (known : key ∈ keys)
    (domestic : ∀ c ∈ before ++ (mark key ++ after), ¬ Foreign keys c) : '%' ∉ before ∧ '%' ∉ after := by
  obtain ⟨early, late⟩ := apart key known before after rfl
  constructor
  · intro member
    obtain ⟨further, gap, rfl⟩ := List.append_of_mem member
    obtain ⟨c, between, foreign⟩ := early gap (List.suffix_append further _)
    exact domestic c (by simp [between]) foreign
  · intro member
    obtain ⟨gap, further, rfl⟩ := List.append_of_mem member
    obtain ⟨c, between, foreign⟩ := late gap ⟨further, by simp⟩
    exact domestic c (by simp [between]) foreign

theorem Apart.of_mem_iff {keys others : List String} {template : List Char} (apart : Apart keys template)
    (same : ∀ key, key ∈ others ↔ key ∈ keys) : Apart others template := by
  have foreign {c : Char} (away : Foreign keys c) : Foreign others c :=
    ⟨away.1, fun key known => away.2 key ((same key).mp known)⟩
  intro key known before after split
  obtain ⟨early, late⟩ := apart key ((same key).mp known) before after split
  refine ⟨fun gap ends => ?_, fun gap begins => ?_⟩
  · obtain ⟨c, between, away⟩ := early gap ends
    exact ⟨c, between, foreign away⟩
  · obtain ⟨c, between, away⟩ := late gap begins
    exact ⟨c, between, foreign away⟩

theorem passes_eq_scan (named : ∀ key ∈ Fields.keys params, IsKey key) (distinct : (Fields.keys params).Nodup)
    (cs : List Char) (apart : Apart (Fields.keys params) cs) : passes params cs = scan (settled params) 0 cs := by
  -- Foreign characters cut a template into shorter ones, down to those with one mark at most.
  induction len : cs.length using Nat.strong_induction_on generalizing cs with
  | _ size ih =>
    subst len
    have keys := keys_settled params
    by_cases cut : ∃ c ∈ cs, Foreign (Fields.keys params) c
    · obtain ⟨c, member, foreign⟩ := cut
      obtain ⟨front, back, rfl⟩ := List.append_of_mem member
      obtain ⟨early, rest⟩ := apart.of_append
      rw [← List.singleton_append] at rest
      have late := rest.of_append.2
      rw [passes_append_foreign foreign, scan_append_foreign (keys ▸ foreign), ih _ (by simp) front early rfl,
        ih _ (by simp; omega) back late rfl]
    · push Not at cut
      by_cases free : ∀ key ∈ Fields.keys params, ¬ mark key <:+: cs
      · rw [passes_of_free free, scan_of_free (keys ▸ free)]
      · push Not at free
        obtain ⟨key, known, before, after, rfl⟩ := free
        rw [List.append_assoc] at apart cut ⊢
        obtain ⟨early, late⟩ := apart.notMem known cut
        obtain ⟨⟨_, text⟩, member, rfl⟩ := List.mem_map.mp (keys ▸ known)
        rw [passes_between _ early late, scan_between _ early late, passes_mark named distinct member,
          scan_mark_alone (keys ▸ named) (keys ▸ distinct) member]

theorem render_eq_substitute (named : ∀ key ∈ Fields.keys params, IsKey key) (distinct : (Fields.keys params).Nodup)
    (template : String) (apart : Apart (Fields.keys params) template.toList) :
    render template params = substitute template (settled params) := by
  rw [render_eq_passes, substitute, passes_eq_scan named distinct _ apart]

/-- Whether no text of a parameter holds the mark of one. -/
def Unmarked (params : Fields Value) : Prop :=
  ∀ value ∈ Fields.values params, ∀ key ∈ Fields.keys params, ¬ mark key <:+: (paramText value).toList

theorem Unmarked.of_perm {others : Fields Value} (unmarked : Unmarked params) (perm : others.Perm params) :
    Unmarked others := by
  have keys : (Fields.keys others).Perm (Fields.keys params) := perm.map Prod.fst
  have values : (Fields.values others).Perm (Fields.values params) := perm.map Prod.snd
  exact fun value member key known => unmarked value (values.mem_iff.mp member) key (keys.mem_iff.mp known)

theorem settled_of_unmarked (unmarked : Unmarked params) : settled params = textsOf params := by
  induction params with
  | nil => rfl
  | cons param later ih =>
    obtain ⟨key, value⟩ := param
    obtain ⟨here, others⟩ := List.forall_mem_cons.mp unmarked
    have free : ∀ other ∈ Fields.keys later, ¬ mark other <:+: (paramText value).toList :=
      fun other known => here other (List.mem_cons_of_mem key known)
    have copied : render (paramText value) later = paramText value := by
      rw [render_eq_passes, passes_of_free free, String.ofList_toList]
    rw [settled, copied, ih fun value member other known => others value member other (List.mem_cons_of_mem key known)]
    rfl

/-- In a template whose marks stand apart every mark gives way to the text of its parameter, and in that the later
parameters, and they only, are put in. So parameters are put in all at once exactly when the later ones do nothing to the
texts of the earlier ones, and in any order if no text holds a mark. -/
theorem render_of_apart {params : Fields Value} (named : ∀ key ∈ Fields.keys params, IsKey key)
    (distinct : (Fields.keys params).Nodup) :
    (∀ template, Apart (Fields.keys params) template.toList →
        render template params = substitute template (settled params)) ∧
      ((∀ template, Apart (Fields.keys params) template.toList →
          render template params = substitute template (textsOf params)) ↔ settled params = textsOf params) ∧
      (Unmarked params → ∀ others : Fields Value, others.Perm params → ∀ template,
        Apart (Fields.keys params) template.toList →
          render template others = substitute template (textsOf params)) := by
  refine ⟨render_eq_substitute named distinct, ⟨fun together => ?_, fun same template apart => ?_⟩, ?_⟩
  · refine Fields.eq_of_subset (keys_settled params ▸ distinct)
      ((keys_settled params).trans (keys_textsOf params).symm) ?_
    rintro ⟨key, text⟩ member
    have known : key ∈ Fields.keys params := keys_settled params ▸ List.mem_map_of_mem member
    obtain ⟨⟨_, own⟩, listed, rfl⟩ := List.mem_map.mp (keys_textsOf params ▸ known)
    have whole := together (placeholder _) (toList_placeholder _ ▸ apart_mark named known)
    rw [render_eq_passes, substitute, String.ofList_inj, toList_placeholder, passes_mark named distinct member,
      scan_mark_alone (keys_textsOf params ▸ named) (keys_textsOf params ▸ distinct) listed, String.toList_inj] at whole
    exact whole ▸ listed
  · rw [render_eq_substitute named distinct template apart, same]
  · intro unmarked others perm template apart
    have keys : (Fields.keys others).Perm (Fields.keys params) := perm.map Prod.fst
    have plain : ∀ key ∈ Fields.keys others, IsKey key := fun key known => named key (keys.mem_iff.mp known)
    have texts : (textsOf others).Perm (textsOf params) := perm.map _
    rw [render_eq_substitute plain (keys.nodup_iff.mpr distinct) template (apart.of_mem_iff fun _ => keys.mem_iff),
      settled_of_unmarked (unmarked.of_perm perm), substitute, substitute,
      scan_perm (keys_textsOf params ▸ named) (keys_textsOf params ▸ distinct) texts]

/-- Two parameters, of which the text of the first holds the mark of the second. -/
def nested : Fields Value :=
  [("a", .text "<%%b%%>"), ("b", .int 3)]

/-- Two parameters without marks in their texts. -/
def loose : Fields Value :=
  [("a", .text "100%"), ("b", .bool true)]

theorem render_of_apart_nested :
    (∀ key ∈ ["a", "b"], IsKey key) ∧ ["a", "b"].Nodup ∧ Apart ["a", "b"] "%%b%%, %%a%%".toList ∧
      render "%%b%%, %%a%%" nested = substitute "%%b%%, %%a%%" (settled nested) ∧
      substitute "%%b%%, %%a%%" (settled nested) = "3, <3>" ∧
      Unmarked loose ∧ render "%%b%%, %%a%%" loose.reverse = substitute "%%b%%, %%a%%" (textsOf loose) ∧
      substitute "%%b%%, %%a%%" (textsOf loose) = "true, 100%" := by
  have named : ∀ key ∈ ["a", "b"], IsKey key := by decide
  have distinct : ["a", "b"].Nodup := by decide
  have apart : Apart ["a", "b"] "%%b%%, %%a%%".toList := by
    have comma : Foreign ["a", "b"] ',' := by decide
    have blank : Foreign ["a", "b"] ' ' := by decide
    have empty : Apart ["a", "b"] [] := fun key _ before after split => by simp [mark] at split
    have first : Apart ["a", "b"] (mark "b") := apart_mark named (by decide)
    have second : Apart ["a", "b"] (mark "a") := apart_mark named (by decide)
    exact apart_append_foreign comma first (apart_append_foreign blank empty second)
  have unmarked : Unmarked loose := by
    unfold Unmarked
    decide +kernel
  have early : render "%%b%%, %%a%%" nested = substitute "%%b%%, %%a%%" (settled nested) :=
    (@render_of_apart nested named distinct).1 _ apart
  have late : render "%%b%%, %%a%%" loose.reverse = substitute "%%b%%, %%a%%" (textsOf loose) :=
    (@render_of_apart loose named distinct).2.2 unmarked _ loose.reverse_perm _ apart
  exact ⟨named, distinct, apart, early, by decide +kernel, unmarked, late, by decide +kernel⟩

/-- The mark in the text of an earlier parameter is replaced, and so is one that a text makes of its surroundings. -/
theorem text_is_rendered :
    (∀ key ∈ ["a", "b", "c", "q"], IsKey key) ∧
      render "%%a%%" [("a", .text "%%b%%"), ("b", .text "x")] = "x" ∧
      render "%%a%%" [("b", .text "x"), ("a", .text "%%b%%")] = "%%b%%" ∧
      substitute "%%a%%" (textsOf [("a", .text "%%b%%"), ("b", .text "x")]) = "%%b%%" ∧
      render "%%b%%%%a%%%%c%%" [("a", .text "q"), ("q", .text "r"), ("b", .text "s"), ("c", .text "t")] = "%%brc%%" ∧
      substitute "%%b%%%%a%%%%c%%"
        (textsOf [("a", .text "q"), ("q", .text "r"), ("b", .text "s"), ("c", .text "t")]) = "sqt" := by
  decide +kernel

end Workbench.Template
