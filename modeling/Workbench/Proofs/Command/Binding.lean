import Workbench.Command.Resolve
import Workbench.Proofs.Fields

namespace Workbench

/-- Of values put one after another under names side by side, a key has the one in the last place that names it. -/
theorem Fields.get?_putAll_zip {α : Type} {names : List String} {values : List α} {key : String} {i : Nat}
    (named : names[i]? = some key) (last : ∀ j, i < j → names[j]? ≠ some key) (inside : i < values.length)
    (fields : Fields α) : (fields.putAll (names.zip values)).get? key = values[i]? := by
  induction names generalizing values fields i with
  | nil => cases named
  | cons name rest ih =>
    cases values with
    | nil => cases inside
    | cons value later =>
      rw [List.zip_cons_cons, putAll_cons]
      cases i with
      | zero =>
        have fresh : key ∉ Fields.keys (rest.zip later) := by
          intro member
          obtain ⟨pair, zipped, same⟩ := List.mem_map.mp member
          obtain ⟨j, found⟩ := List.mem_iff_getElem?.mp (List.of_mem_zip zipped).1
          exact last (j + 1) (Nat.succ_pos j) (found.trans (congrArg some same))
        rw [get?_putAll_of_notMem fresh, get?_put, if_pos (Option.some.inj named)]
        rfl
      | succ i =>
        rw [List.getElem?_cons_succ] at named
        rw [ih named (fun j behind => last (j + 1) (Nat.succ_lt_succ behind)) (Nat.lt_of_succ_lt_succ inside),
          List.getElem?_cons_succ]

/-- Within an open name the characters collected so far, or the next one, keep it from being empty. -/
theorem ne_nil_of_mem_placeholdersFrom {usage : List Char} {collected : Option (List Char)}
    (begun : collected = some [] → usage.head? ≠ some '>') :
    ∀ name ∈ placeholdersFrom usage collected, name ≠ [] := by
  induction usage generalizing collected with
  | nil => simp [placeholdersFrom]
  | cons c rest ih =>
    cases collected with
    | some given =>
      rw [placeholdersFrom]
      split
      · rename_i closes
        have nonempty : given ≠ [] := by
          rintro rfl
          exact begun rfl (congrArg some closes)
        rw [List.forall_mem_cons]
        exact ⟨fun same => nonempty (List.reverse_eq_nil_iff.mp same), ih (by simp)⟩
      · exact ih (by simp)
    | none =>
      rw [placeholdersFrom]
      split
      · rename_i opens
        simp only [Bool.and_eq_true, decide_eq_true_eq] at opens
        exact ih fun _ => opens.1.2
      · exact ih (by simp)

theorem Command.ne_empty_of_mem_placeholders {command : Command} {name : String}
    (member : name ∈ command.placeholders) : name ≠ "" := by
  obtain ⟨spelled, found, rfl⟩ := List.mem_map.mp member
  have nonempty := ne_nil_of_mem_placeholdersFrom (by simp) spelled found
  intro same
  exact nonempty (by simpa using congrArg String.toList same)

namespace Resolution

/-- The arguments that are no flags. -/
def positionals (args : List String) : List String :=
  args.filter fun arg => !isFlag arg

/-- The names of the flags among arguments. -/
def flagNames (args : List String) : List String :=
  (args.filter isFlag).map flagName

variable {utility : Utility} {command : Command} {args : List String} {key : String}

/-- The name behind the arguments is missing one; if there is none, every name has its argument. -/
theorem bindPositional_eq_elim (names args : List String) (bound : Fields Value) :
    bindPositional names args bound =
      names[args.length]?.elim (.ok (bound.putAll (names.zip (args.map .text)))) fun name =>
        .error (.missingParameter name) := by
  induction names generalizing args bound with
  | nil => simp [bindPositional, Fields.putAll]
  | cons name rest ih =>
    cases args with
    | nil => simp [bindPositional]
    | cons arg others =>
      rw [bindPositional, ih]
      rfl

theorem bind_of_missing {name : String} (missing : command.placeholders[(positionals args).length]? = some name)
    (draws : Draws) : bind utility command args draws = (⟨utility, command, .error (.missingParameter name)⟩, draws) := by
  have fault := bindPositional_eq_elim command.placeholders (positionals args) []
  rw [missing] at fault
  simp only [bind, ← positionals.eq_def, fault, Option.elim_some]

theorem bind_of_complete (complete : command.placeholders.length ≤ (positionals args).length) (draws : Draws) :
    (bind utility command args draws).1 = ⟨utility, command, .ok
      (bindGenerated (generatedParams utility.signature)
        ((args.filter isFlag).foldl bindFlag
          (.ofPairs (command.placeholders.zip ((positionals args).map .text)))) draws).1⟩ := by
  have bound := bindPositional_eq_elim command.placeholders (positionals args) []
  rw [List.getElem?_eq_none complete] at bound
  simp only [bind, ← positionals.eq_def, bound, Option.elim_none]
  rfl

/-- Binding fails for the first placeholder behind the arguments, if there is one. -/
theorem outcome_bind_eq_error_iff {draws : Draws} {fault : BindFault} :
    (bind utility command args draws).1.outcome = .error fault ↔
      ∃ name, command.placeholders[(positionals args).length]? = some name ∧ fault = .missingParameter name := by
  cases missing : command.placeholders[(positionals args).length]? with
  | none =>
    rw [bind_of_complete (List.getElem?_eq_none_iff.mp missing)]
    simp
  | some name =>
    rw [bind_of_missing missing]
    simp [eq_comm]

theorem exists_outcome_bind_eq_error_iff {draws : Draws} :
    (∃ fault, (bind utility command args draws).1.outcome = .error fault) ↔
      (positionals args).length < command.placeholders.length := by
  constructor
  · rintro ⟨fault, failed⟩
    obtain ⟨name, missing, _⟩ := outcome_bind_eq_error_iff.mp failed
    exact (List.getElem?_eq_some_iff.mp missing).1
  · intro short
    exact ⟨_, outcome_bind_eq_error_iff.mpr ⟨_, List.getElem?_eq_getElem short, rfl⟩⟩

theorem complete_of_outcome_bind {draws : Draws} {params : Fields Value}
    (bound : (bind utility command args draws).1.outcome = .ok params) :
    command.placeholders.length ≤ (positionals args).length := by
  refine Nat.le_of_not_lt fun short => ?_
  obtain ⟨fault, failed⟩ := exists_outcome_bind_eq_error_iff.mpr short
  cases bound.symm.trans failed

/-- A call that fails for want of an argument draws nothing. -/
theorem draws_of_outcome_bind {draws : Draws} {fault : BindFault}
    (failed : (bind utility command args draws).1.outcome = .error fault) :
    (bind utility command args draws).2 = draws := by
  obtain ⟨name, missing, _⟩ := outcome_bind_eq_error_iff.mp failed
  rw [bind_of_missing missing]

theorem bind_fst (utility : Utility) (command : Command) (args : List String) (draws : Draws) :
    (bind utility command args draws).1 = ⟨utility, command, (bind utility command args draws).1.outcome⟩ := by
  cases missing : command.placeholders[(positionals args).length]? with
  | none => rw [bind_of_complete (List.getElem?_eq_none_iff.mp missing)]
  | some name => rw [bind_of_missing missing]

/-- A flag switches the parameter of its name on, whatever the parameter has been. -/
theorem get?_foldl_bindFlag (filled : key ≠ "") (flags : List String) (bound : Fields Value) :
    Fields.get? (flags.foldl bindFlag bound) key =
      if key ∈ flags.map flagName then some (.bool true) else Fields.get? bound key := by
  induction flags generalizing bound with
  | nil => simp
  | cons flag rest ih =>
    have switched : Fields.get? (bindFlag bound flag) key =
        if key = flagName flag then some (.bool true) else Fields.get? bound key := by
      unfold bindFlag
      by_cases nameless : flagName flag = ""
      · rw [if_pos nameless, if_neg (nameless ▸ filled)]
      · rw [if_neg nameless, Fields.get?_put]
        exact if_congr eq_comm rfl rfl
    rw [List.foldl_cons, ih, switched, List.map_cons]
    by_cases later : key ∈ rest.map flagName
    · rw [if_pos later, if_pos (List.mem_cons_of_mem _ later)]
    · rw [if_neg later]
      exact if_congr (by simp [later]) rfl rfl

/-- Generated parameters are put behind what is bound, each with a number drawn for it. -/
theorem bindGenerated_eq_putAll (entries : List (String × Int × Int)) (bound : Fields Value) (draws : Draws) :
    ∃ drawn : List Int, drawn.length = entries.length ∧
      (bindGenerated entries bound draws).1 = bound.putAll ((entries.map Prod.fst).zip (drawn.map .int)) := by
  induction entries generalizing bound draws with
  | nil => exact ⟨[], rfl, rfl⟩
  | cons entry rest ih =>
    obtain ⟨name, low, high⟩ := entry
    obtain ⟨drawn, length, same⟩ := ih (bound.put name (.int (draws.next low).1)) (draws.next low).2
    exact ⟨(draws.next low).1 :: drawn, congrArg Nat.succ length, same⟩

theorem get?_bindGenerated {entries : List (String × Int × Int)} (ungenerated : key ∉ entries.map Prod.fst)
    (bound : Fields Value) (draws : Draws) :
    Fields.get? (bindGenerated entries bound draws).1 key = Fields.get? bound key := by
  obtain ⟨drawn, length, same⟩ := bindGenerated_eq_putAll entries bound draws
  have names : Fields.keys ((entries.map Prod.fst).zip (drawn.map Value.int)) = entries.map Prod.fst :=
    Fields.keys_zip (by simpa using length.symm)
  rw [same, Fields.get?_putAll_of_notMem (by rwa [names])]

/-- What a parameter is in the end, unless it is a generated one: on, if a flag bears its name, else what the
placeholders have put under it. -/
theorem get?_of_bind {draws : Draws} {params : Fields Value}
    (bound : (bind utility command args draws).1.outcome = .ok params) (filled : key ≠ "")
    (ungenerated : key ∉ (generatedParams utility.signature).map Prod.fst) :
    Fields.get? params key = if key ∈ flagNames args then some (.bool true) else
      Fields.get? (.ofPairs (command.placeholders.zip ((positionals args).map .text))) key := by
  rw [bind_of_complete (complete_of_outcome_bind bound)] at bound
  cases bound
  rw [get?_bindGenerated ungenerated, get?_foldl_bindFlag filled]
  rfl

/-- The last placeholder of a name has the argument in its own place. -/
theorem get?_placeholders {i : Nat} (named : command.placeholders[i]? = some key)
    (last : ∀ j, i < j → command.placeholders[j]? ≠ some key) (inside : i < (positionals args).length) :
    Fields.get? (.ofPairs (command.placeholders.zip ((positionals args).map Value.text))) key =
      some (.text (positionals args)[i]) := by
  have given : i < ((positionals args).map Value.text).length := by rwa [List.length_map]
  rw [Fields.ofPairs, Fields.get?_putAll_zip named last given, List.getElem?_map, List.getElem?_eq_getElem inside]
  rfl

end Resolution

end Workbench
