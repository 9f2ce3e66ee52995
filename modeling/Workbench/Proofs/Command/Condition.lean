import Workbench.Proofs.Command.Binding
import Workbench.Proofs.State.Effect

namespace Workbench

namespace Resolution

variable {utility : Utility} {command : Command} {args : List String} {name : String}

/-- A name that does not begin with a dash is the name of two flags, one with a dash and one with two. -/
theorem flagName_eq_iff {arg : String} (undashed : isFlag name = false) :
    isFlag arg = true ∧ flagName arg = name ↔ arg = "-" ++ name ∨ arg = "--" ++ name := by
  have other : name.toList.head? ≠ some '-' := by simpa [isFlag] using undashed
  have one : arg = "-" ++ name ↔ arg.toList = '-' :: name.toList := by
    rw [← String.toList_inj]
    simp
  have two : arg = "--" ++ name ↔ arg.toList = '-' :: '-' :: name.toList := by
    rw [← String.toList_inj]
    simp
  have spelled (cs : List Char) : String.ofList cs = name ↔ cs = name.toList := by
    rw [← String.toList_inj, String.toList_ofList]
  rw [one, two, isFlag, flagName]
  split
  · rename_i more given
    have longer : '-' :: more ≠ name.toList := fun same => other (same ▸ rfl)
    simp [given, spelled, longer]
  · rename_i rest single given
    have shorter : rest ≠ '-' :: name.toList := fun same => single _ same
    simp [given, spelled, shorter]
  · rename_i bare
    have unflagged : arg.toList.head? ≠ some '-' := by
      intro head
      obtain ⟨rest, given⟩ := List.head?_eq_some_iff.mp head
      exact bare rest given
    exact iff_of_false (fun flag => unflagged (eq_of_beq flag.1)) (not_or.mpr ⟨bare _, bare _⟩)

theorem mem_flagNames_iff (undashed : isFlag name = false) :
    name ∈ flagNames args ↔ "-" ++ name ∈ args ∨ "--" ++ name ∈ args := by
  have named : name ∈ flagNames args ↔ ∃ arg ∈ args, isFlag arg = true ∧ flagName arg = name := by
    simp [flagNames, and_assoc]
  rw [named]
  constructor
  · rintro ⟨arg, member, flag⟩
    rcases (flagName_eq_iff undashed).mp flag with rfl | rfl
    · exact Or.inl member
    · exact Or.inr member
  · rintro (member | member)
    · exact ⟨_, member, (flagName_eq_iff undashed).mpr (Or.inl rfl)⟩
    · exact ⟨_, member, (flagName_eq_iff undashed).mpr (Or.inr rfl)⟩

/-- Whether a placeholder puts an argument that is not empty under a name: the last placeholder of that name counts. -/
def IsFilled (command : Command) (args : List String) (name : String) : Prop :=
  ∃ (i : Nat) (arg : String), command.placeholders[i]? = some name ∧
    (∀ j, i < j → command.placeholders[j]? ≠ some name) ∧ (positionals args)[i]? = some arg ∧ arg ≠ ""

theorem exists_last_getElem? {α : Type} {items : List α} {item : α} (member : item ∈ items) :
    ∃ i : Nat, items[i]? = some item ∧ ∀ j, i < j → items[j]? ≠ some item := by
  induction items with
  | nil => cases member
  | cons first rest ih =>
    by_cases later : item ∈ rest
    · obtain ⟨i, found, last⟩ := ih later
      refine ⟨i + 1, found, fun j behind => ?_⟩
      obtain ⟨k, rfl⟩ := Nat.exists_eq_add_of_lt behind
      exact last (i + 1 + k) (by omega)
    · have same : first = item := ((List.mem_cons.mp member).resolve_right later).symm
      refine ⟨0, congrArg some same, fun j behind found => later ?_⟩
      obtain ⟨k, rfl⟩ := Nat.exists_eq_add_of_lt behind
      exact List.mem_of_getElem? found

theorem isFilled_iff {i : Nat} (named : command.placeholders[i]? = some name)
    (last : ∀ j, i < j → command.placeholders[j]? ≠ some name) (given : i < (positionals args).length) :
    IsFilled command args name ↔ (positionals args)[i] ≠ "" := by
  constructor
  · rintro ⟨j, arg, alsoNamed, alsoLast, found, full⟩
    have same : j = i := by
      rcases Nat.lt_trichotomy j i with before | same | behind
      · exact absurd named (alsoLast i before)
      · exact same
      · exact absurd alsoNamed (last j behind)
    subst same
    obtain ⟨inside, equal⟩ := List.getElem?_eq_some_iff.mp found
    exact equal ▸ full
  · intro full
    exact ⟨i, _, named, last, List.getElem?_eq_getElem given, full⟩

/-- A parameter counts as true exactly when a flag bears its name or its placeholder has an argument that is not
empty. -/
theorem truthy_of_bind_iff {draws : Draws} {params : Fields Value}
    (bound : (bind utility command args draws).1.outcome = .ok params) (filled : name ≠ "")
    (ungenerated : name ∉ (generatedParams utility.signature).map Prod.fst) :
    ((Fields.get? params name).map Value.truthy).getD false = true ↔
      name ∈ flagNames args ∨ IsFilled command args name := by
  have complete := complete_of_outcome_bind bound
  rw [get?_of_bind bound filled ungenerated]
  by_cases flagged : name ∈ flagNames args
  · simp [flagged, Value.truthy]
  · rw [if_neg flagged, or_iff_right flagged]
    by_cases member : name ∈ command.placeholders
    · obtain ⟨i, named, last⟩ := exists_last_getElem? member
      have given : i < (positionals args).length := (List.getElem?_eq_some_iff.mp named).1.trans_le complete
      rw [get?_placeholders named last given, isFilled_iff named last given]
      simp [Value.truthy]
    · have unnamed : name ∉ Fields.keys (command.placeholders.zip ((positionals args).map Value.text)) := by
        intro found
        obtain ⟨pair, zipped, rfl⟩ := List.mem_map.mp found
        exact member (List.of_mem_zip zipped).1
      have unfilled : ¬ IsFilled command args name := by
        rintro ⟨i, arg, named, -⟩
        exact member (List.mem_of_getElem? named)
      rw [Fields.ofPairs, Fields.get?_putAll_of_notMem unnamed]
      simp [unfilled, Fields.get?]

end Resolution

/-- A change that is not due is as good as absent. -/
theorem State.applyAll_of_not_due {params : Fields Value} {change : StateChange} (still : change.isDue params = false)
    (state : State) (before after : List StateChange) :
    applyAll params state (before ++ change :: after) = applyAll params state (before ++ after) := by
  have skipped (next : State) : apply params next change = .ok next := by simp [apply, still]
  rw [applyAll_append, applyAll_append]
  refine congrArg (applyAll params state before >>= ·) (funext fun next => ?_)
  rw [applyAll_cons, skipped]
  rfl

namespace StateChange

open Resolution

variable {name : String} {change : StateChange} {params : Fields Value}

/-- A name behind a number of dashes. -/
def dashed (dashes : Nat) (name : String) : String :=
  String.ofList (List.replicate dashes '-' ++ name.toList)

/-- A condition looks up the name behind its dashes. -/
theorem conditionMet_dashed (undashed : isFlag name = false) (dashes : Nat) (params : Fields Value) :
    conditionMet (dashed dashes name) params = ((Fields.get? params name).map Value.truthy).getD false := by
  have other : name.toList.dropWhile (· == '-') = name.toList := by
    cases spelled : name.toList with
    | nil => rfl
    | cons c rest =>
      have differs : ¬ c = '-' := by simpa [isFlag, spelled] using undashed
      exact List.dropWhile_cons_of_neg (by simpa using differs)
  have stripped : (List.replicate dashes '-' ++ name.toList).dropWhile (· == '-') = name.toList := by
    rw [List.dropWhile_append_of_pos (by simp), other]
  simp only [conditionMet, dashed, String.toList_ofList, stripped, String.ofList_toList]

/-- A condition on a name, with any dashes before it, is met exactly when a flag of that name is among the arguments or
the last placeholder of that name has an argument that is not empty; a change whose condition is not met is as good as
absent. -/
theorem conditionMet_iff_flagged {utility : Utility} {command : Command} {args : List String} {draws : Draws}
    (bound : (Resolution.bind utility command args draws).1.outcome = .ok params) (filled : name ≠ "")
    (undashed : isFlag name = false) (ungenerated : name ∉ (generatedParams utility.signature).map Prod.fst)
    {dashes : Nat} (conditioned : change.condition = some (dashed dashes name)) :
    (conditionMet (dashed dashes name) params = true ↔
      "-" ++ name ∈ args ∨ "--" ++ name ∈ args ∨ IsFilled command args name) ∧
    (conditionMet (dashed dashes name) params = false → ∀ state before after,
      State.applyAll params state (before ++ change :: after) = State.applyAll params state (before ++ after)) := by
  constructor
  · rw [conditionMet_dashed undashed, truthy_of_bind_iff bound filled ungenerated, mem_flagNames_iff undashed, or_assoc]
  · intro unmet state before after
    refine State.applyAll_of_not_due ?_ state before after
    have nonempty : dashed dashes name ≠ "" := by
      intro same
      have empty := congrArg String.toList same
      simp [dashed, filled] at empty
    have kept : (some (dashed dashes name)).filter (· != "") = some (dashed dashes name) := by simp [nonempty]
    rw [isDue, conditioned, kept]
    exact unmet

/-- A command that asks for a mode twice; the second answer counts. -/
def scan : Command :=
  ⟨none, "scan <mode> <target> <mode>", [], {}⟩

def scanner : Utility :=
  ⟨"scan", "", none, none, some "scan <mode> <target> <mode>", [], none, ""⟩

def scanned : Fields Value :=
  [("mode", .text ""), ("target", .text "x"), ("d", .bool true)]

def heatRaised : StateChange :=
  ⟨"heat", .increase, some (.float 1.0), none, some "--mode", none, none⟩

theorem conditionMet_iff_flagged_scan :
    (Resolution.bind scanner scan ["fast", "-d", "x", ""] ⟨[]⟩).1.outcome = .ok scanned ∧ isFlag "mode" = false ∧
      (conditionMet (dashed 2 "mode") scanned = true ↔ "-" ++ "mode" ∈ ["fast", "-d", "x", ""] ∨
        "--" ++ "mode" ∈ ["fast", "-d", "x", ""] ∨ IsFilled scan ["fast", "-d", "x", ""] "mode") ∧
      conditionMet (dashed 2 "mode") scanned = false ∧
      ∀ state before after, State.applyAll scanned state (before ++ heatRaised :: after) =
        State.applyAll scanned state (before ++ after) := by
  have bound : (Resolution.bind scanner scan ["fast", "-d", "x", ""] ⟨[]⟩).1.outcome = .ok scanned := rfl
  have unmet : conditionMet (dashed 2 "mode") scanned = false := by decide
  have conditioned : heatRaised.condition = some (dashed 2 "mode") := rfl
  obtain ⟨agrees, absent⟩ := conditionMet_iff_flagged bound (by decide) (by decide) (by decide) conditioned
  exact ⟨bound, rfl, agrees, unmet, absent unmet⟩

end StateChange

end Workbench
