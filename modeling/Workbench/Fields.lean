namespace Workbench

/-- A keyed list, in the order in which its keys first arrived. State vectors, parameter
bindings, file stores and decoded objects are all of this shape. -/
abbrev Fields (α : Type) := List (String × α)

namespace Fields

variable {α β : Type}

/-- The value stored under a key. -/
def get? : Fields α → String → Option α
  | [], _ => none
  | (name, value) :: rest, key => if name = key then some value else get? rest key

def has (fields : Fields α) (key : String) : Bool :=
  (fields.get? key).isSome

/-- Store a value: a known key keeps its place, a new one goes last. -/
def put : Fields α → String → α → Fields α
  | [], key, value => [(key, value)]
  | (name, old) :: rest, key, value =>
    if name = key then (name, value) :: rest else (name, old) :: put rest key value

/-- Replace the value of a known key. An unknown key changes nothing. -/
def update : Fields α → String → α → Fields α
  | [], _, _ => []
  | (name, old) :: rest, key, value =>
    if name = key then (name, value) :: rest else (name, old) :: update rest key value

def erase : Fields α → String → Fields α
  | [], _ => []
  | (name, value) :: rest, key => if name = key then rest else (name, value) :: erase rest key

def keys (fields : Fields α) : List String :=
  fields.map Prod.fst

def values (fields : Fields α) : List α :=
  fields.map Prod.snd

/-- Store pairs one after another, so a repeated key keeps its first place and its last value. -/
def putAll (fields : Fields α) (pairs : List (String × α)) : Fields α :=
  pairs.foldl (fun acc pair => acc.put pair.1 pair.2) fields

def ofPairs (pairs : List (String × α)) : Fields α :=
  putAll [] pairs

def mapValues (f : α → β) (fields : Fields α) : Fields β :=
  fields.map fun pair => (pair.1, f pair.2)

/-- The entries by code point order of their keys. -/
def sorted (fields : Fields α) : Fields α :=
  fields.mergeSort fun a b => decide (a.1 ≤ b.1)

theorem get?_put (fields : Fields α) (key other : String) (value : α) :
    (fields.put key value).get? other = if key = other then some value else fields.get? other := by
  induction fields with
  | nil => simp only [put, get?]
  | cons pair rest ih =>
    obtain ⟨name, old⟩ := pair
    by_cases same : name = key
    · subst same
      by_cases hit : name = other <;> simp [put, get?, hit]
    · by_cases hit : name = other
      · subst hit
        simp [put, get?, same, Ne.symm same]
      · simp [put, get?, same, hit, ih]

theorem keys_update (fields : Fields α) (key : String) (value : α) :
    (fields.update key value).keys = fields.keys := by
  induction fields with
  | nil => rfl
  | cons pair rest ih =>
    obtain ⟨name, old⟩ := pair
    by_cases same : name = key
    · simp [update, same, keys]
    · simpa [update, same, keys] using ih

theorem update_eq_put {fields : Fields α} {key : String} (known : fields.has key = true) (value : α) :
    fields.update key value = fields.put key value := by
  induction fields with
  | nil => simp [has, get?] at known
  | cons pair rest ih =>
    obtain ⟨name, old⟩ := pair
    by_cases same : name = key
    · simp [update, put, same]
    · have later : has rest key = true := by simpa [has, get?, same] using known
      simp [update, put, same, ih later]

end Fields

end Workbench
