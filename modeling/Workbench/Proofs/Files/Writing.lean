import Workbench.Files.Action
import Workbench.Files.Shell
import Workbench.Proofs.Fields
import Workbench.Proofs.Outcome

namespace Workbench

namespace Shell

/-- The path and the text that a line writes, if the shell takes the line for an echo with a target. -/
def writing? (line : String) : Option (String × String) :=
  if line ≠ "" ∧ (wordsOf line).head? = some echoWord then
    match Text.cutFirst " > ".toList line.toList with
    | none => none
    | some (head, tail) =>
      let target := Text.strip (String.ofList tail)
      if target = "" then none
      else some (target, unwrap (Text.strip (String.ofList (head.drop echoWord.length))))
  else none

/-- Content with a text written to it: an array has it as a new item, all else gives way to it. -/
def written (old : Option FileContent) (message : String) : FileContent :=
  match old with
  | some (.array items) => .array (items ++ [.text message])
  | _ => .text message

theorem run_of_writing {input path message : String} (writes : writing? (Text.strip input) = some (path, message))
    (state : Fields Value) (store : Store) :
    ∃ reply, reply.isError = false ∧ run state store input =
      .ok (reply, Fields.put store path (written (Fields.get? store path) message)) := by
  unfold writing? at writes
  split at writes
  · rename_i taken
    obtain ⟨spoken, first⟩ := taken
    simp only [run, if_neg spoken, first, Option.getD_some, echoWord, echo]
    cases found : Text.cutFirst " > ".toList (Text.strip input).toList with
    | none =>
      rw [found] at writes
      cases writes
    | some parts =>
      obtain ⟨head, tail⟩ := parts
      rw [found] at writes
      dsimp only at writes ⊢
      split at writes
      · cases writes
      · rename_i named
        cases writes
        rw [if_neg named]
        cases held : Fields.get? store (Text.strip (String.ofList tail)) with
        | none => exact ⟨_, rfl, rfl⟩
        | some content => cases content <;> exact ⟨_, rfl, rfl⟩
  · cases writes

/-- A line that is no echo with a target leaves the files as they are. -/
theorem store_of_not_writing {input : String} (still : writing? (Text.strip input) = none) {state : Fields Value}
    {store next : Store} {reply : Reply} (ran : run state store input = .ok (reply, next)) : next = store := by
  unfold run at ran
  dsimp only at ran
  split at ran
  · cases ran
    rfl
  · rename_i spoken
    split at ran
    · cases ran; rfl
    · obtain ⟨_, _, same⟩ := Except.map_eq_ok.mp ran
      cases same
      rfl
    · rename_i first
      have taken : (wordsOf (Text.strip input)).head? = some echoWord := by
        cases words : (wordsOf (Text.strip input)).head? with
        | none =>
          rw [words] at first
          exact absurd first (by decide)
        | some word =>
          rw [words] at first
          exact congrArg some first
      rw [writing?, if_pos ⟨spoken, taken⟩] at still
      simp only [echo] at ran
      cases found : Text.cutFirst " > ".toList (Text.strip input).toList with
      | none =>
        rw [found] at ran
        cases ran
        rfl
      | some parts =>
        obtain ⟨head, tail⟩ := parts
        rw [found] at ran still
        dsimp only at ran still
        split at ran
        · cases ran; rfl
        · rename_i named
          rw [if_neg named] at still
          cases still
    · obtain ⟨_, _, same⟩ := Except.map_eq_ok.mp ran
      cases same
      rfl
    all_goals cases ran; rfl

end Shell

namespace FileAction

/-- What an action adds to the list of changes if it is carried out. -/
def change (params : Fields Value) (action : FileAction) : FileChange :=
  ⟨action.verb, Template.render action.path params⟩

/-- An action that does not apply leaves the files as they are; one that does is noted as a change. -/
theorem step_cases (params : Fields Value) (outcome : Outcome) (action : FileAction) :
    (step params outcome action).store = outcome.store ∧
        (step params outcome action).changed = outcome.changed ∨
      isResolved (action.change params).path = true ∧
        perform? action.verb outcome.store (action.change params).path (Template.render action.content params) =
          some (step params outcome action).store ∧
        (step params outcome action).changed = outcome.changed ++ [action.change params] := by
  unfold step change
  dsimp only
  split
  · rename_i resolved
    split
    · rename_i next done
      exact Or.inr ⟨resolved, done, rfl⟩
    · exact Or.inl ⟨rfl, rfl⟩
  · exact Or.inl ⟨rfl, rfl⟩

theorem performAll_concat (actions : List FileAction) (action : FileAction) (params : Fields Value) (store : Store) :
    performAll (actions ++ [action]) params store = step params (performAll actions params store) action := by
  rw [performAll, List.foldl_append]
  rfl

/-- What holds of the files and the changes at first, and stays true when an action is skipped or carried out, holds
after all actions. -/
theorem performAll_induction {params : Fields Value} {store : Store}
    {motive : List FileAction → Store → List FileChange → Prop} (start : motive [] store [])
    (skipped : ∀ earlier action held changed, motive earlier held changed → motive (earlier ++ [action]) held changed)
    (made : ∀ earlier action held changed next, motive earlier held changed →
      isResolved (action.change params).path = true →
      perform? action.verb held (action.change params).path (Template.render action.content params) = some next →
      motive (earlier ++ [action]) next (changed ++ [action.change params]))
    (actions : List FileAction) :
    motive actions (performAll actions params store).store (performAll actions params store).changed := by
  induction actions using List.reverseRecOn with
  | nil => exact start
  | append_singleton earlier action ih =>
    rw [performAll_concat]
    rcases step_cases params (performAll earlier params store) action with ⟨same, changed⟩ | ⟨resolved, done, changed⟩
    · rw [same, changed]
      exact skipped earlier action _ _ ih
    · rw [changed]
      exact made earlier action _ _ _ ih resolved done

/-- Actions of which none is noted as a change leave the files as they are. -/
theorem store_of_unchanged {actions : List FileAction} {params : Fields Value} {store : Store}
    (unchanged : (performAll actions params store).changed = []) : (performAll actions params store).store = store := by
  refine performAll_induction (motive := fun _ held changed => changed = [] → held = store) ?_ ?_ ?_ actions unchanged
  · exact fun _ => rfl
  · exact fun _ _ _ _ before => before
  · exact fun _ _ _ _ _ _ _ _ empty => absurd empty (by simp)

/-- Only files of resolved paths are changed. -/
theorem isResolved_of_changed (actions : List FileAction) (params : Fields Value) (store : Store) :
    ∀ change ∈ (performAll actions params store).changed, isResolved change.path = true := by
  refine performAll_induction (motive := fun _ _ changed => ∀ change ∈ changed, isResolved change.path = true)
    ?_ ?_ ?_ actions
  · simp
  · exact fun _ _ _ _ before => before
  · intro _ action _ _ _ before resolved _
    exact List.forall_mem_append.mpr ⟨before, List.forall_mem_singleton.mpr resolved⟩

theorem append?_cases {store next : Store} {path text : String} (done : append? store path text = some next) :
    (∀ bytes, Fields.get? store path ≠ some (.blob bytes)) ∧ ∃ content, next = Fields.put store path content := by
  unfold append? at done
  cases found : Fields.get? store path with
  | none =>
    rw [found] at done
    exact ⟨by simp, _, (Option.some.inj done).symm⟩
  | some content =>
    rw [found] at done
    cases content with
    | text old => exact ⟨by simp, _, (Option.some.inj done).symm⟩
    | array items => exact ⟨by simp, _, (Option.some.inj done).symm⟩
    | blob bytes => cases done

/-- An action changes the file of its path at most. -/
theorem agreeOff_perform? {verb : FileVerb} {store next : Store} {path text : String}
    (done : perform? verb store path text = some next) : Fields.AgreeOff [path] store next := by
  cases verb with
  | append =>
    obtain ⟨_, content, rfl⟩ := append?_cases done
    exact Fields.agreeOff_put store path content
  | create | update =>
    simp only [perform?] at done
    split at done <;> cases done
    exact Fields.agreeOff_put store path _
  | delete =>
    simp only [perform?] at done
    split at done <;> cases done
    exact Fields.agreeOff_erase store path

/-- Actions change no file but those that they list. -/
theorem agreeOff_performAll (actions : List FileAction) (params : Fields Value) (store : Store) :
    Fields.AgreeOff ((performAll actions params store).changed.map FileChange.path) store
      (performAll actions params store).store := by
  refine performAll_induction
    (motive := fun _ held changed => Fields.AgreeOff (changed.map FileChange.path) store held) ?_ ?_ ?_ actions
  · exact fun _ _ => rfl
  · exact fun _ _ _ _ before => before
  · intro _ action _ changed _ before _ done
    rw [List.map_append]
    exact before.append (agreeOff_perform? done)

end FileAction

end Workbench
