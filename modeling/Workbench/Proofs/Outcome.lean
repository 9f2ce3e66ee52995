import Mathlib

namespace Workbench

variable {ε φ α β : Type}

theorem Except.map_eq_ok {f : α → β} {x : Except ε α} {value : β} :
    x.map f = .ok value ↔ ∃ source, x = .ok source ∧ f source = value := by
  cases x <;> simp [Except.map]

theorem Except.bind_eq_ok {f : α → Except ε β} {x : Except ε α} {value : β} :
    (x >>= f) = .ok value ↔ ∃ source, x = .ok source ∧ f source = .ok value := by
  cases x <;> simp [bind, Except.bind]

theorem Except.mapError_eq_ok {f : ε → φ} {x : Except ε α} {value : α} :
    x.mapError f = .ok value ↔ x = .ok value := by
  cases x <;> simp [Except.mapError]

theorem Except.mapM_eq_self {f : α → Except ε α} {items : List α} (fixed : ∀ item ∈ items, f item = .ok item) :
    items.mapM f = .ok items := by
  induction items with
  | nil => rfl
  | cons item rest ih =>
    rw [List.mapM_cons, fixed item List.mem_cons_self,
      ih fun other member => fixed other (List.mem_cons_of_mem _ member)]
    rfl

theorem Except.exists_of_mem_mapM {f : α → Except ε β} {items : List α} {made : List β}
    (mapped : items.mapM f = .ok made) : ∀ value ∈ made, ∃ item ∈ items, f item = .ok value := by
  induction items generalizing made with
  | nil => cases mapped; exact nofun
  | cons item rest ih =>
    rw [List.mapM_cons] at mapped
    obtain ⟨first, one, mapped⟩ := Except.bind_eq_ok.mp mapped
    obtain ⟨later, others, same⟩ := Except.bind_eq_ok.mp mapped
    cases same
    intro value member
    rcases List.mem_cons.mp member with rfl | member
    · exact ⟨item, List.mem_cons_self, one⟩
    · obtain ⟨other, known, same⟩ := ih others value member
      exact ⟨other, List.mem_cons_of_mem _ known, same⟩

end Workbench
