import Workbench.Proofs.Fields
import Workbench.Proofs.Outcome
import Workbench.State.Mutation

namespace Workbench

/-- What a change makes of the value that its metric holds, if it holds one: a new value, or none when the change is
skipped. -/
def StateChange.effect (change : StateChange) (params : Fields Value) (held : Option Value) :
    Except Overflow (Option Value) :=
  if change.isDue params then held.elim (.ok none) (change.onValue params) else .ok none

namespace State

/-- Put a new value into a metric, if there is one. -/
def place (state : State) (metric : String) (made : Option Value) : State :=
  made.elim state (Fields.update state metric)

variable {params : Fields Value} {state : State} {change : StateChange}

/-- A change looks at nothing but the value of its own metric and writes nowhere else. -/
theorem apply_eq (params : Fields Value) (state : State) (change : StateChange) :
    apply params state change =
      (change.effect params (Fields.get? state change.metric)).map (place state change.metric) := by
  unfold apply StateChange.effect
  by_cases due : change.isDue params = true
  · rw [if_pos due, if_pos due]
    cases Fields.get? state change.metric with
    | none => rfl
    | some current =>
      refine congrArg (fun putting => (change.onValue params current).map putting) (funext fun made => ?_)
      cases made <;> rfl
  · rw [if_neg due, if_neg due]
    rfl

theorem applyAll_cons (params : Fields Value) (state : State) (change : StateChange) (rest : List StateChange) :
    applyAll params state (change :: rest) = apply params state change >>= fun next => applyAll params next rest := by
  rw [applyAll]
  cases apply params state change <;> rfl

theorem applyAll_singleton (params : Fields Value) (state : State) (change : StateChange) :
    applyAll params state [change] = apply params state change := by
  rw [applyAll_cons]
  exact bind_pure (apply params state change)

theorem applyAll_append (params : Fields Value) (state : State) (front back : List StateChange) :
    applyAll params state (front ++ back) =
      applyAll params state front >>= fun next => applyAll params next back := by
  induction front generalizing state with
  | nil => rfl
  | cons change rest ih => simp only [List.cons_append, applyAll_cons, ih, bind_assoc]

theorem get?_place (state : State) (metric other : String) (made : Option Value) :
    Fields.get? (place state metric made) other =
      if metric = other then (Fields.get? state other).map made.getD else Fields.get? state other := by
  cases made with
  | none =>
    have kept : (none : Option Value).getD = id := funext fun current => rfl
    simp [place, kept]
  | some value => exact Fields.get?_update state metric other value

theorem place_comm {metric other : String} (differs : metric ≠ other) (state : State) (made later : Option Value) :
    place (place state metric made) other later = place (place state other later) metric made := by
  cases made with
  | none => rfl
  | some value =>
    cases later with
    | none => rfl
    | some last => exact Fields.update_comm differs state value last

end State

end Workbench
