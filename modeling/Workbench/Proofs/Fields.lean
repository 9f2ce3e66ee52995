import Mathlib
import Workbench.Fields

namespace Workbench.Fields

variable {α β : Type}

theorem has_iff_mem_keys {fields : Fields α} {key : String} : fields.has key = true ↔ key ∈ fields.keys := by
  induction fields with
  | nil => simp [has, get?, keys]
  | cons pair rest ih =>
    obtain ⟨name, value⟩ := pair
    by_cases same : name = key
    · simp [has, get?, keys, same]
    · simpa [has, get?, keys, same, Ne.symm same] using ih

/-- Replacing a value reaches the key that is named, if it is known, and no other. -/
theorem get?_update (fields : Fields α) (key other : String) (value : α) :
    (fields.update key value).get? other =
      if key = other then (fields.get? other).map fun _ => value else fields.get? other := by
  induction fields with
  | nil => simp [update, get?]
  | cons pair rest ih =>
    obtain ⟨name, old⟩ := pair
    by_cases same : name = key
    · subst same
      by_cases hit : name = other <;> simp [update, get?, hit]
    · by_cases hit : name = other
      · subst hit
        simp [update, get?, same, Ne.symm same]
      · simp [update, get?, same, hit, ih]

/-- Replacing the values of two different keys comes to the same in either order. -/
theorem update_comm {key other : String} (differs : key ≠ other) (fields : Fields α) (value later : α) :
    (fields.update key value).update other later = (fields.update other later).update key value := by
  induction fields with
  | nil => simp only [update]
  | cons pair rest ih =>
    obtain ⟨name, old⟩ := pair
    by_cases same : name = key
    · have apart : name ≠ other := fun hit => differs (same.symm.trans hit)
      simp only [update, if_pos same, if_neg apart]
    · by_cases hit : name = other
      · simp only [update, if_neg same, if_pos hit]
      · simp only [update, if_neg same, if_neg hit, ih]

theorem update_held {fields : Fields α} {key : String} {value : α} (held : fields.get? key = some value) :
    fields.update key value = fields := by
  induction fields with
  | nil => simp only [update]
  | cons pair rest ih =>
    obtain ⟨name, old⟩ := pair
    by_cases same : name = key
    · have equal : old = value := by simpa [get?, same] using held
      simp only [update, if_pos same, equal]
    · have later : Fields.get? rest key = some value := by simpa [get?, same] using held
      simp only [update, if_neg same, ih later]

theorem get?_update_held {fields : Fields α} {key : String} {old : α} (held : fields.get? key = some old) (value : α) :
    (fields.update key value).get? key = some value := by
  rw [get?_update, if_pos rfl, held]
  rfl

/-- Of two values put under one key the later stays. -/
theorem update_update (fields : Fields α) (key : String) (value later : α) :
    (fields.update key value).update key later = fields.update key later := by
  induction fields with
  | nil => rfl
  | cons pair rest ih =>
    obtain ⟨name, old⟩ := pair
    by_cases same : name = key
    · simp only [update, if_pos same]
    · simp only [update, if_neg same, ih]

theorem update_inj {fields : Fields α} {key : String} (known : (fields.get? key).isSome = true) {value other : α} :
    fields.update key value = fields.update key other ↔ value = other := by
  constructor
  · intro same
    obtain ⟨current, held⟩ := Option.isSome_iff_exists.mp known
    have found := congrArg (Fields.get? · key) same
    simpa [get?_update, held] using found
  · exact fun same => congrArg _ same

theorem get?_append (front back : Fields α) (key : String) :
    Fields.get? (front ++ back) key = (front.get? key).or (back.get? key) := by
  induction front with
  | nil => simp [get?]
  | cons pair rest ih =>
    obtain ⟨name, value⟩ := pair
    by_cases hit : name = key <;> simp [get?, hit, ih]

/-- Leaving out entries by their keys hides just those keys. -/
theorem get?_filter_keys (keep : String → Bool) (fields : Fields α) (key : String) :
    Fields.get? (fields.filter fun entry => keep entry.1) key = if keep key then fields.get? key else none := by
  induction fields with
  | nil => simp [get?]
  | cons pair rest ih =>
    obtain ⟨name, value⟩ := pair
    by_cases hit : name = key
    · subst hit
      by_cases kept : keep name = true <;> simp [get?, kept, ih]
    · by_cases kept : keep name = true <;> simp [get?, hit, kept, ih]

theorem get?_mapValues (f : α → β) (fields : Fields α) (key : String) :
    (fields.mapValues f).get? key = (fields.get? key).map f := by
  induction fields with
  | nil => rfl
  | cons pair rest ih =>
    obtain ⟨name, value⟩ := pair
    by_cases hit : name = key
    · simp [mapValues, get?, hit]
    · simpa [mapValues, get?, hit] using ih

theorem get?_mapEntries (f : String → α → β) (fields : Fields α) (key : String) :
    Fields.get? (fields.map fun entry => (entry.1, f entry.1 entry.2)) key = (fields.get? key).map (f key) := by
  induction fields with
  | nil => rfl
  | cons pair rest ih =>
    obtain ⟨name, value⟩ := pair
    by_cases hit : name = key
    · simp [get?, hit]
    · simpa [get?, hit] using ih

theorem mem_keys_put {fields : Fields α} {key other : String} {value : α} :
    other ∈ (fields.put key value).keys ↔ other = key ∨ other ∈ fields.keys := by
  rw [← has_iff_mem_keys, ← has_iff_mem_keys, has, get?_put, has]
  by_cases same : key = other
  · simp [same]
  · simp [same, Ne.symm same]

theorem keys_put (fields : Fields α) (key : String) (value : α) :
    (fields.put key value).keys = if fields.has key then fields.keys else fields.keys ++ [key] := by
  induction fields with
  | nil => rfl
  | cons pair rest ih =>
    obtain ⟨name, old⟩ := pair
    by_cases same : name = key
    · simp [put, has, get?, keys, same]
    · have known : has ((name, old) :: rest) key = has rest key := by simp [has, get?, same]
      have later : keys ((name, old) :: put rest key value) = name :: keys (put rest key value) := rfl
      rw [put, if_neg same, known, later, ih]
      split <;> rfl

theorem nodup_keys_put {fields : Fields α} (distinct : fields.keys.Nodup) (key : String) (value : α) :
    (fields.put key value).keys.Nodup := by
  rw [keys_put]
  split
  · exact distinct
  · rename_i fresh
    rw [List.nodup_append_comm, List.singleton_append, List.nodup_cons]
    exact ⟨fun member => fresh (has_iff_mem_keys.mpr member), distinct⟩

/-- Under distinct keys every entry is found by its key. -/
theorem get?_eq_some_iff_mem {fields : Fields α} (distinct : fields.keys.Nodup) {key : String} {value : α} :
    fields.get? key = some value ↔ (key, value) ∈ fields := by
  induction fields with
  | nil => simp [get?]
  | cons pair rest ih =>
    obtain ⟨name, first⟩ := pair
    obtain ⟨fresh, later⟩ := List.nodup_cons.mp distinct
    rw [List.mem_cons, Prod.mk.injEq, get?]
    by_cases hit : name = key
    · subst hit
      have absent : (name, value) ∉ rest := fun member => fresh (List.mem_map.mpr ⟨_, member, rfl⟩)
      simp [absent, eq_comm]
    · rw [if_neg hit, ih later]
      simp [Ne.symm hit]

theorem keys_erase (fields : Fields α) (key : String) : (fields.erase key).keys = fields.keys.erase key := by
  induction fields with
  | nil => rfl
  | cons pair rest ih =>
    obtain ⟨name, value⟩ := pair
    by_cases same : name = key
    · simp [erase, keys, same]
    · simpa [erase, keys, same] using ih

theorem put_of_notMem {fields : Fields α} {key : String} (fresh : key ∉ fields.keys) (value : α) :
    fields.put key value = fields ++ [(key, value)] := by
  induction fields with
  | nil => rfl
  | cons pair rest ih =>
    obtain ⟨name, old⟩ := pair
    obtain ⟨other, later⟩ := List.ne_and_not_mem_of_not_mem_cons fresh
    rw [put, if_neg other.symm, ih later, List.cons_append]

theorem notMem_keys_concat {fields : Fields α} {key other : String} (absent : other ∉ fields.keys)
    (differs : other ≠ key) (value : α) : other ∉ Fields.keys (fields ++ [(key, value)]) := by
  rw [keys, List.map_append, List.mem_append, List.map_singleton, List.mem_singleton, not_or]
  exact ⟨absent, differs⟩

theorem keys_zip {names : List String} {values : List α} (same : names.length = values.length) :
    Fields.keys (names.zip values) = names :=
  List.map_fst_zip same.le

/-- Of names and values side by side, a name that stands once has the value at its own place. -/
theorem get?_zip {names : List String} {values : List α} (distinct : names.Nodup) {i : Nat}
    (named : i < names.length) : Fields.get? (names.zip values) names[i] = values[i]? := by
  induction names generalizing values i with
  | nil => cases named
  | cons name rest ih =>
    obtain ⟨once, others⟩ := List.nodup_cons.mp distinct
    cases values with
    | nil => rfl
    | cons value later =>
      cases i with
      | zero => simp [get?]
      | succ i =>
        have inside : i < rest.length := Nat.lt_of_succ_lt_succ named
        have different : name ≠ rest[i] := fun same => once (same ▸ List.getElem_mem inside)
        rw [List.zip_cons_cons, List.getElem_cons_succ, List.getElem?_cons_succ, get?, if_neg different,
          ih others inside]

theorem putAll_cons (fields : Fields α) (pair : String × α) (rest : List (String × α)) :
    fields.putAll (pair :: rest) = (fields.put pair.1 pair.2).putAll rest :=
  rfl

theorem mem_keys_putAll {fields : Fields α} {pairs : List (String × α)} {key : String} :
    key ∈ (fields.putAll pairs).keys ↔ key ∈ fields.keys ∨ key ∈ pairs.map Prod.fst := by
  induction pairs generalizing fields with
  | nil => simp [putAll]
  | cons pair rest ih => rw [putAll_cons, ih, mem_keys_put, List.map_cons, List.mem_cons, or_assoc, or_left_comm]

theorem get?_putAll_of_notMem {fields : Fields α} {pairs : List (String × α)} {key : String}
    (unnamed : key ∉ Fields.keys pairs) : (fields.putAll pairs).get? key = fields.get? key := by
  induction pairs generalizing fields with
  | nil => rfl
  | cons pair rest ih =>
    obtain ⟨differs, later⟩ := List.ne_and_not_mem_of_not_mem_cons unnamed
    rw [putAll_cons, ih later, get?_put, if_neg differs.symm]

/-- Pairs under new and distinct keys go behind what is there already. -/
theorem putAll_eq_append {fields : Fields α} {pairs : List (String × α)} (distinct : (Fields.keys pairs).Nodup)
    (fresh : ∀ key ∈ Fields.keys pairs, key ∉ fields.keys) : fields.putAll pairs = fields ++ pairs := by
  induction pairs generalizing fields with
  | nil => exact (List.append_nil fields).symm
  | cons pair rest ih =>
    obtain ⟨once, distinct⟩ := List.nodup_cons.mp distinct
    obtain ⟨own, later⟩ := List.forall_mem_cons.mp fresh
    have still : ∀ key ∈ Fields.keys rest, key ∉ Fields.keys (fields ++ [pair]) :=
      fun key member => notMem_keys_concat (later key member) (ne_of_mem_of_not_mem member once) _
    rw [putAll_cons, put_of_notMem own, ih distinct still, List.append_assoc]
    rfl

/-- Keyed lists with the same distinct keys in the same order are equal if one holds all entries of the other. -/
theorem eq_of_subset {fields others : Fields α} (distinct : fields.keys.Nodup) (same : fields.keys = others.keys)
    (subset : ∀ entry ∈ fields, entry ∈ others) : fields = others := by
  induction fields generalizing others with
  | nil => exact (List.map_eq_nil_iff.mp same.symm).symm
  | cons entry rest ih =>
    cases others with
    | nil => cases same
    | cons first later =>
      obtain ⟨head, tail⟩ := List.cons_eq_cons.mp same
      obtain ⟨fresh, distinct⟩ := List.nodup_cons.mp distinct
      obtain ⟨here, others⟩ := List.forall_mem_cons.mp subset
      have equal : entry = first := by
        refine (List.mem_cons.mp here).resolve_right fun member => fresh ?_
        rw [show List.map Prod.fst rest = keys rest from rfl, show keys rest = keys later from tail]
        exact List.mem_map_of_mem member
      have inner : ∀ other ∈ rest, other ∈ later := by
        refine fun other member => (List.mem_cons.mp (others other member)).resolve_left ?_
        rintro rfl
        exact fresh (equal ▸ List.mem_map_of_mem member)
      rw [equal, ih distinct tail inner]

/-- Sorting keeps the first entry of every key before all others of that key. -/
theorem get?_sorted (fields : Fields α) (key : String) : fields.sorted.get? key = fields.get? key := by
  induction fields with
  | nil => simp [sorted]
  | cons pair rest ih =>
    obtain ⟨name, value⟩ := pair
    obtain ⟨front, back, whole, others, before⟩ := @List.mergeSort_cons (String × α)
      (fun a b => decide (a.1 ≤ b.1))
      (fun a b c ab bc => by simpa using String.le_trans (by simpa using ab) (by simpa using bc))
      (fun a b => by simpa using String.le_total a.1 b.1) (name, value) rest
    have tail : Fields.get? (front ++ back) key = Fields.get? rest key := by
      rw [← ih, sorted, others]
    rw [get?_append] at tail
    rw [sorted, whole, get?_append]
    by_cases hit : name = key
    · have absent : Fields.get? front key = none := by
        rw [← Option.not_isSome_iff_eq_none]
        intro present
        obtain ⟨entry, member, same⟩ := List.mem_map.mp (has_iff_mem_keys.mp present)
        have later := before entry member
        simp [hit, same] at later
      simp [get?, hit, absent]
    · simp [get?, hit, tail]

/-- Whether keyed lists have the same under every key that is not listed. -/
def AgreeOff (touched : List String) (before after : Fields α) : Prop :=
  ∀ key ∉ touched, after.get? key = before.get? key

theorem AgreeOff.append {first second : List String} {before middle after : Fields α}
    (one : AgreeOff first before middle) (two : AgreeOff second middle after) :
    AgreeOff (first ++ second) before after := by
  intro key outside
  have early : key ∉ first := fun member => outside (List.mem_append_left _ member)
  have late : key ∉ second := fun member => outside (List.mem_append_right _ member)
  exact (two key late).trans (one key early)

theorem AgreeOff.trans {touched : List String} {before middle after : Fields α}
    (one : AgreeOff touched before middle) (two : AgreeOff touched middle after) : AgreeOff touched before after :=
  fun key outside => (two key outside).trans (one key outside)

theorem AgreeOff.mem_keys {touched : List String} {before after : Fields α} {key : String}
    (agrees : AgreeOff touched before after) (known : key ∈ after.keys) : key ∈ touched ∨ key ∈ before.keys := by
  by_cases listed : key ∈ touched
  · exact Or.inl listed
  · right
    rw [← has_iff_mem_keys, has] at known ⊢
    rwa [agrees key listed] at known

theorem agreeOff_update {touched : List String} {key : String} (listed : key ∈ touched) (fields : Fields α)
    (value : α) : AgreeOff touched fields (fields.update key value) := by
  intro other outside
  have differs : key ≠ other := fun same => outside (same ▸ listed)
  rw [get?_update, if_neg differs]

theorem agreeOff_put (fields : Fields α) (key : String) (value : α) : AgreeOff [key] fields (fields.put key value) := by
  intro other outside
  have differs : key ≠ other := fun same => outside (List.mem_singleton.mpr same.symm)
  rw [get?_put, if_neg differs]

theorem agreeOff_erase (fields : Fields α) (key : String) : AgreeOff [key] fields (fields.erase key) := by
  intro other outside
  have differs : key ≠ other := fun same => outside (List.mem_singleton.mpr same.symm)
  induction fields with
  | nil => rfl
  | cons pair rest ih =>
    obtain ⟨name, value⟩ := pair
    by_cases same : name = key
    · simp [erase, get?, same, differs]
    · simp [erase, get?, same, ih]

end Workbench.Fields
