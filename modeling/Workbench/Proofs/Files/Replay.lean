import Workbench.Proofs.Files.Writing
import Workbench.Proofs.Text.Cut

namespace Workbench

/-- The paths at which a store holds something. -/
def Store.taken (store : Store) : Set String :=
  {path | path ∈ Fields.keys store}

namespace FileChange

/-- The paths that are taken after a change. -/
def pass (taken : Set String) (change : FileChange) : Set String :=
  match change.verb with
  | .create | .update | .append => insert change.path taken
  | .delete => taken \ {change.path}

/-- Whether a change can be made where the given paths are taken. -/
def Suits (change : FileChange) (taken : Set String) : Prop :=
  match change.verb with
  | .create => change.path ∉ taken
  | .update | .delete => change.path ∈ taken
  | .append => True

/-- Whether changes lead from some taken paths to others, each suiting the paths that it finds. -/
structure Replay (before : Set String) (changed : List FileChange) (after : Set String) : Prop where
  folded : changed.foldl pass before = after
  suited : ∀ earlier change later, changed = earlier ++ change :: later → change.Suits (earlier.foldl pass before)

variable {before after : Set String} {changed : List FileChange}

theorem Replay.concat (replay : Replay before changed after) {change : FileChange} (suits : change.Suits after) :
    Replay before (changed ++ [change]) (pass after change) where
  folded := by rw [List.foldl_append, replay.folded, List.foldl_cons, List.foldl_nil]
  suited earlier next later split := by
    rcases List.eq_nil_or_concat' later with rfl | ⟨others, last, rfl⟩
    · obtain ⟨rfl, same⟩ := List.append_inj' split rfl
      cases same
      rw [replay.folded]
      exact suits
    · rw [← List.cons_append, ← List.append_assoc] at split
      exact replay.suited earlier next others (List.append_inj_left' split rfl)

end FileChange

namespace Store

variable {store : Store} {path : String}

theorem mem_taken : path ∈ store.taken ↔ Fields.has store path = true :=
  Fields.has_iff_mem_keys.symm

theorem taken_put (store : Store) (path : String) (content : FileContent) :
    taken (Fields.put store path content) = insert path store.taken :=
  Set.ext fun _ => Fields.mem_keys_put

theorem taken_erase (distinct : (Fields.keys store).Nodup) (path : String) :
    taken (Fields.erase store path) = store.taken \ {path} := by
  ext other
  simp only [taken, Set.mem_ofPred_eq, Fields.keys_erase, distinct.mem_erase_iff, Set.mem_sdiff, Set.mem_singleton_iff,
    and_comm]

end Store

namespace FileAction

variable {store next : Store}

/-- An action that applies suits the paths that it finds and leaves those that its change leads to. -/
theorem taken_of_perform? {verb : FileVerb} {path text : String} (distinct : (Fields.keys store).Nodup)
    (done : perform? verb store path text = some next) :
    (FileChange.mk verb path).Suits store.taken ∧ next.taken = FileChange.pass store.taken ⟨verb, path⟩ ∧
      (Fields.keys next).Nodup := by
  cases verb with
  | append =>
    obtain ⟨_, content, rfl⟩ := append?_cases done
    exact ⟨trivial, Store.taken_put store path content, Fields.nodup_keys_put distinct path content⟩
  | create =>
    simp only [perform?] at done
    split at done <;> cases done
    rename_i absent
    exact ⟨mt Store.mem_taken.mp absent, Store.taken_put store path _, Fields.nodup_keys_put distinct path _⟩
  | update =>
    simp only [perform?] at done
    split at done <;> cases done
    rename_i present
    exact ⟨Store.mem_taken.mpr present, Store.taken_put store path _, Fields.nodup_keys_put distinct path _⟩
  | delete =>
    simp only [perform?] at done
    split at done <;> cases done
    rename_i present
    exact ⟨Store.mem_taken.mpr present, Store.taken_erase distinct path, Fields.keys_erase store path ▸ distinct.erase path⟩

theorem replay_performAll (distinct : (Fields.keys store).Nodup) (actions : List FileAction) (params : Fields Value) :
    FileChange.Replay store.taken (performAll actions params store).changed (performAll actions params store).store.taken ∧
      (Fields.keys (performAll actions params store).store).Nodup := by
  refine performAll_induction (motive := fun _ held changed =>
    FileChange.Replay store.taken changed held.taken ∧ (Fields.keys held).Nodup) ?_ ?_ ?_ actions
  · exact ⟨⟨rfl, fun earlier change later split => by simp at split⟩, distinct⟩
  · exact fun _ _ _ _ before => before
  · intro _ action _ _ _ ⟨replay, apart⟩ _ done
    obtain ⟨suits, taken, still⟩ := taken_of_perform? apart done
    rw [taken]
    exact ⟨replay.concat suits, still⟩

/-- Changes are listed in the order of the actions that make them. -/
theorem sublist_changed (actions : List FileAction) (params : Fields Value) (store : Store) :
    (performAll actions params store).changed.Sublist (actions.map (change params)) := by
  refine performAll_induction (motive := fun taken _ changed => changed.Sublist (taken.map (change params)))
    ?_ ?_ ?_ actions
  · exact .slnil
  · intro _ _ _ _ before
    rw [List.map_append]
    exact before.trans (List.sublist_append_left _ _)
  · intro _ _ _ _ _ before _ _
    rw [List.map_append]
    exact before.append (List.Sublist.refl _)

theorem isResolved_iff {path : String} : isResolved path = true ↔ path ≠ "" ∧ ¬ ['%', '%'] <:+: path.toList := by
  rw [isResolved, Bool.and_eq_true, decide_eq_true_iff, Bool.not_eq_true', ← Bool.not_eq_true, Text.occurs_iff]
  rfl

/-- An append to an entry that holds bytes does nothing. -/
theorem step_of_blob {params : Fields Value} {outcome : Outcome} {action : FileAction} (verb : action.verb = .append)
    {bytes : List UInt8} (held : Fields.get? outcome.store (action.change params).path = some (.blob bytes)) :
    (step params outcome action).store = outcome.store ∧ (step params outcome action).changed = outcome.changed := by
  refine (step_cases params outcome action).resolve_right fun ⟨_, done, _⟩ => ?_
  rw [verb] at done
  exact (append?_cases done).1 bytes held

/-- The list of changes tells what actions did to a store: files that are not listed stay as they are, the changes lead
from the paths of the store to those that it has afterwards, they stand in the order of the actions, none is made at a
path without a name or with a mark left in it, and appends leave entries with bytes alone. -/
theorem changes_replay {store : Store} (distinct : (Fields.keys store).Nodup) (actions : List FileAction)
    (params : Fields Value) :
    (∀ path ∉ (performAll actions params store).changed.map FileChange.path,
        Fields.get? (performAll actions params store).store path = Fields.get? store path) ∧
      FileChange.Replay store.taken (performAll actions params store).changed
        (performAll actions params store).store.taken ∧
      (performAll actions params store).changed.Sublist (actions.map (change params)) ∧
      (∀ path, path = "" ∨ ['%', '%'] <:+: path.toList →
        path ∉ (performAll actions params store).changed.map FileChange.path ∧
          Fields.get? (performAll actions params store).store path = Fields.get? store path) ∧
      ∀ earlier action later, actions = earlier ++ action :: later → action.verb = .append → ∀ bytes,
        Fields.get? (performAll earlier params store).store (action.change params).path = some (.blob bytes) →
          (performAll (earlier ++ [action]) params store).store = (performAll earlier params store).store ∧
            (performAll (earlier ++ [action]) params store).changed = (performAll earlier params store).changed := by
  have unlisted := agreeOff_performAll actions params store
  refine ⟨unlisted, (replay_performAll distinct actions params).1, sublist_changed actions params store, ?_, ?_⟩
  · intro path unnamed
    have outside : path ∉ (performAll actions params store).changed.map FileChange.path := by
      intro member
      obtain ⟨change, listed, rfl⟩ := List.mem_map.mp member
      obtain ⟨named, free⟩ := isResolved_iff.mp (isResolved_of_changed actions params store change listed)
      exact unnamed.elim named free
    exact ⟨outside, unlisted path outside⟩
  · intro earlier action later _ verb bytes held
    rw [performAll_concat]
    exact step_of_blob verb held

/-- A store with content of every kind. -/
def shelf : Store :=
  [("/a", .text "old"), ("/b", .blob [255]), ("/c", .array [])]

/-- Actions of which the first, the third and the fifth do not apply to the shelf. -/
def chores : List FileAction :=
  [⟨.create, "/a", "lost"⟩, ⟨.create, "/%%name%%", "new"⟩, ⟨.append, "/b", "lost"⟩, ⟨.update, "/a", ""⟩,
    ⟨.append, "%%path%%", "lost"⟩, ⟨.delete, "/c", ""⟩, ⟨.create, "/c", "again"⟩]

theorem changes_replay_chores :
    (Fields.keys shelf).Nodup ∧
      (performAll chores [("name", .text "n")] shelf).changed =
        [⟨.create, "/n"⟩, ⟨.update, "/a"⟩, ⟨.delete, "/c"⟩, ⟨.create, "/c"⟩] ∧
      FileChange.Replay shelf.taken [⟨.create, "/n"⟩, ⟨.update, "/a"⟩, ⟨.delete, "/c"⟩, ⟨.create, "/c"⟩]
        (performAll chores [("name", .text "n")] shelf).store.taken ∧
      Fields.get? (performAll chores [("name", .text "n")] shelf).store "/b" = Fields.get? shelf "/b" := by
  have distinct : (Fields.keys shelf).Nodup := by decide
  have changed : (performAll chores [("name", .text "n")] shelf).changed =
      [⟨.create, "/n"⟩, ⟨.update, "/a"⟩, ⟨.delete, "/c"⟩, ⟨.create, "/c"⟩] := by decide +kernel
  obtain ⟨unlisted, replay, -⟩ := changes_replay distinct chores [("name", .text "n")]
  rw [changed] at unlisted replay
  exact ⟨distinct, changed, replay, unlisted "/b" (by decide)⟩

end FileAction

end Workbench
