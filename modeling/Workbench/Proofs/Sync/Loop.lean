import Mathlib
import Workbench.Sync.Loop

namespace Workbench

variable {L W : Type}

namespace Loop

/-- Whether a job waits for its time. -/
def Awaits (loop : Loop L W) (job : Job L W) : Prop :=
  ∃ timer ∈ loop.timers, timer.job = job

/-- Whether a job is still to come, now or when its time has come. -/
def Pending (loop : Loop L W) (job : Job L W) : Prop :=
  job ∈ loop.queue ∨ loop.Awaits job

/-- The jobs that the turn of the clock does not lose. -/
theorem pending_turnTo {loop : Loop L W} {time : Rat} {job : Job L W} :
    (loop.turnTo time).Pending job ↔ loop.Pending job := by
  simp only [Pending, Awaits, turnTo, List.mem_append, List.mem_map, List.mem_mergeSort, List.mem_filter,
    decide_eq_true_eq]
  constructor
  · rintro ((queued | ⟨timer, ⟨member, _⟩, same⟩) | ⟨timer, ⟨member, _⟩, same⟩)
    · exact Or.inl queued
    · exact Or.inr ⟨timer, member, same⟩
    · exact Or.inr ⟨timer, member, same⟩
  · rintro (queued | ⟨timer, member, same⟩)
    · exact Or.inl (Or.inl queued)
    · by_cases due : timer.time ≤ time
      · exact Or.inl (Or.inr ⟨timer, ⟨member, due⟩, same⟩)
      · exact Or.inr ⟨timer, ⟨member, Rat.not_le.mp due⟩, same⟩

variable [DecidableEq L]

/-- The jobs that a deed queues at once. -/
def Queues (loop : Loop L W) : Deed L W → Job L W → Prop
  | .post data sender, job => ∃ listener ∈ loop.recipients sender, job = .delivery listener data
  | .spawn work, job | .proceed work, job => job = .work work
  | .sleep span work, job | .alarm span work, job => span ≤ 0 ∧ job = .work work
  | .finish failed, job => job = .ended failed
  | .subscribe _, _ | .unsubscribe _, _ | .fail, _ | .note _, _ => False

end Loop

/-- The jobs that a deed has wait for their time. -/
def Deed.Delays : Deed L W → Job L W → Prop
  | .sleep span work, job => 0 < span ∧ job = .rouse work
  | .alarm span work, job => 0 < span ∧ job = .work work
  | _, _ => False

/-- The jobs that a deed may queue at once, whoever listens. -/
def Deed.Rushes : Deed L W → Job L W → Prop
  | .post data _, job => ∃ listener, job = .delivery listener data
  | .spawn work, job | .proceed work, job => job = .work work
  | .sleep span work, job | .alarm span work, job => span ≤ 0 ∧ job = .work work
  | .finish failed, job => job = .ended failed
  | .subscribe _, _ | .unsubscribe _, _ | .fail, _ | .note _, _ => False

/-- The jobs that may come of a deed, now or later. -/
def Deed.LeadsTo (deed : Deed L W) (job : Job L W) : Prop :=
  deed.Rushes job ∨ deed.Delays job

/-- Whether a deed leaves the listeners as they are. -/
def Deed.Stays : Deed L W → Prop
  | .subscribe _ | .unsubscribe _ => False
  | _ => True

namespace Loop

variable [DecidableEq L]

theorem mem_queue_perform {loop : Loop L W} {deed : Deed L W} {job : Job L W} :
    job ∈ (loop.perform deed).queue ↔ job ∈ loop.queue ∨ loop.Queues deed job := by
  cases deed with
  | subscribe listener => simp only [perform, subscribe, Queues, or_false]; split <;> rfl
  | post data sender =>
    simp only [perform, broadcast, Queues, List.mem_append, List.mem_map]
    simp only [eq_comm]
  | sleep span work | alarm span work =>
    by_cases atOnce : span ≤ 0 <;> simp [perform, schedule, enqueue, Queues, atOnce]
  | unsubscribe listener | spawn work | proceed work | finish failed | fail | note notice =>
    simp [perform, unsubscribe, enqueue, Loop.note, Queues]

theorem awaits_perform {loop : Loop L W} {deed : Deed L W} {job : Job L W} :
    (loop.perform deed).Awaits job ↔ loop.Awaits job ∨ deed.Delays job := by
  cases deed with
  | subscribe listener => simp only [Awaits, perform, subscribe, Deed.Delays, or_false]; split <;> rfl
  | sleep span work | alarm span work =>
    by_cases atOnce : span ≤ 0
    · simp [Awaits, perform, schedule, enqueue, Deed.Delays, atOnce, Rat.not_lt.mpr atOnce]
    · simp only [Awaits, perform, schedule, Deed.Delays, atOnce, if_false, Rat.not_le.mp atOnce, true_and,
        List.mem_append, List.mem_singleton, or_and_right, exists_or, exists_eq_left]
      simp only [eq_comm]
  | post data sender | unsubscribe listener | spawn work | proceed work | finish failed | fail | note notice =>
    simp [Awaits, perform, unsubscribe, broadcast, enqueue, Loop.note, Deed.Delays]

theorem Queues.rushes {loop : Loop L W} {deed : Deed L W} {job : Job L W} (queues : loop.Queues deed job) :
    deed.Rushes job := by
  cases deed with
  | post data sender =>
    obtain ⟨listener, _, same⟩ := queues
    exact ⟨listener, same⟩
  | _ => exact queues

/-- Whatever is queued after deeds was queued before or is queued by one of them. -/
theorem queued_performAll {loop : Loop L W} {deeds : List (Deed L W)} {job : Job L W}
    (queued : job ∈ (loop.performAll deeds).queue) : job ∈ loop.queue ∨ ∃ deed ∈ deeds, deed.Rushes job := by
  induction deeds generalizing loop with
  | nil => exact Or.inl queued
  | cons deed rest ih =>
    rcases ih queued with queued | ⟨other, member, rushes⟩
    · rcases mem_queue_perform.mp queued with old | new
      · exact Or.inl old
      · exact Or.inr ⟨deed, List.mem_cons_self, new.rushes⟩
    · exact Or.inr ⟨other, List.mem_cons_of_mem deed member, rushes⟩

theorem awaits_performAll {loop : Loop L W} {deeds : List (Deed L W)} {job : Job L W}
    (awaited : (loop.performAll deeds).Awaits job) : loop.Awaits job ∨ ∃ deed ∈ deeds, deed.Delays job := by
  induction deeds generalizing loop with
  | nil => exact Or.inl awaited
  | cons deed rest ih =>
    rcases ih awaited with awaited | ⟨other, member, delays⟩
    · rcases awaits_perform.mp awaited with old | new
      · exact Or.inl old
      · exact Or.inr ⟨deed, List.mem_cons_self, new⟩
    · exact Or.inr ⟨other, List.mem_cons_of_mem deed member, delays⟩

/-- Whatever is to come after deeds was to come before or comes of one of them. -/
theorem pending_performAll {loop : Loop L W} {deeds : List (Deed L W)} {job : Job L W}
    (pending : (loop.performAll deeds).Pending job) : loop.Pending job ∨ ∃ deed ∈ deeds, deed.LeadsTo job := by
  rcases pending with queued | awaited
  · rcases queued_performAll queued with old | ⟨deed, member, rushes⟩
    · exact Or.inl (Or.inl old)
    · exact Or.inr ⟨deed, member, Or.inl rushes⟩
  · rcases awaits_performAll awaited with old | ⟨deed, member, delays⟩
    · exact Or.inl (Or.inr old)
    · exact Or.inr ⟨deed, member, Or.inr delays⟩

theorem mem_queue_performAll {loop : Loop L W} {deeds : List (Deed L W)} {job : Job L W}
    (queued : job ∈ loop.queue) : job ∈ (loop.performAll deeds).queue := by
  induction deeds generalizing loop with
  | nil => exact queued
  | cons deed rest ih => exact ih (mem_queue_perform.mpr (Or.inl queued))

theorem mem_queue_of_deed {loop : Loop L W} {deeds : List (Deed L W)} {deed : Deed L W} {job : Job L W}
    (member : deed ∈ deeds) (queues : ∀ loop : Loop L W, loop.Queues deed job) :
    job ∈ (loop.performAll deeds).queue := by
  induction deeds generalizing loop with
  | nil => cases member
  | cons first rest ih =>
    rcases List.mem_cons.mp member with rfl | later
    · have queued : job ∈ (loop.perform deed).queue := mem_queue_perform.mpr (Or.inr (queues loop))
      have kept : job ∈ ((loop.perform deed).performAll rest).queue := mem_queue_performAll queued
      exact kept
    · exact ih later

theorem now_perform (loop : Loop L W) (deed : Deed L W) : (loop.perform deed).now = loop.now := by
  cases deed with
  | subscribe listener => simp only [perform, subscribe]; split <;> rfl
  | sleep span work | alarm span work => simp only [perform, schedule, enqueue]; split <;> rfl
  | _ => rfl

theorem now_performAll (loop : Loop L W) (deeds : List (Deed L W)) :
    (loop.performAll deeds).now = loop.now := by
  induction deeds generalizing loop with
  | nil => rfl
  | cons deed rest ih => exact (ih _).trans (now_perform loop deed)

theorem listeners_perform (loop : Loop L W) {deed : Deed L W} (stays : deed.Stays) :
    (loop.perform deed).listeners = loop.listeners := by
  cases deed with
  | subscribe listener | unsubscribe listener => exact stays.elim
  | sleep span work | alarm span work => simp only [perform, schedule, enqueue]; split <;> rfl
  | _ => rfl

theorem mem_listeners_perform {loop : Loop L W} {deed : Deed L W} {listener : L} (listens : listener ∈ loop.listeners)
    (stays : deed ≠ .unsubscribe listener) : listener ∈ (loop.perform deed).listeners := by
  cases deed with
  | subscribe other =>
    simp only [perform, subscribe]
    split
    · exact listens
    · exact List.mem_append_left _ listens
  | unsubscribe other =>
    have differs : listener ≠ other := fun same => stays (by rw [same])
    exact (List.mem_erase_of_ne differs).mpr listens
  | _ =>
    rw [listeners_perform]
    · exact listens
    · trivial

theorem mem_listeners_performAll {loop : Loop L W} {deeds : List (Deed L W)} {listener : L}
    (listens : listener ∈ loop.listeners) (stay : .unsubscribe listener ∉ deeds) :
    listener ∈ (loop.performAll deeds).listeners := by
  induction deeds generalizing loop with
  | nil => exact listens
  | cons deed rest ih =>
    have kept : listener ∈ (loop.perform deed).listeners :=
      mem_listeners_perform listens fun same => stay (by rw [same]; exact List.mem_cons_self)
    exact ih kept fun member => stay (List.mem_cons_of_mem deed member)

theorem mem_listeners_of_subscribe {loop : Loop L W} {deeds : List (Deed L W)} {listener : L}
    (member : .subscribe listener ∈ deeds) (stay : .unsubscribe listener ∉ deeds) :
    listener ∈ (loop.performAll deeds).listeners := by
  induction deeds generalizing loop with
  | nil => cases member
  | cons deed rest ih =>
    have stayLater : .unsubscribe listener ∉ rest := fun later => stay (List.mem_cons_of_mem deed later)
    rcases List.mem_cons.mp member with rfl | later
    · have joined : listener ∈ (loop.perform (.subscribe listener)).listeners := by
        simp only [perform, subscribe]
        split
        · assumption
        · exact List.mem_append_right _ (List.mem_singleton_self listener)
      have kept : listener ∈ ((loop.perform (.subscribe listener)).performAll rest).listeners :=
        mem_listeners_performAll joined stayLater
      exact kept
    · exact ih later stayLater

/-- Deeds of those who neither join nor leave queue what each of them queues by itself. -/
theorem mem_queue_performAll_iff {loop : Loop L W} {deeds : List (Deed L W)} {job : Job L W}
    (stay : ∀ deed ∈ deeds, deed.Stays) :
    job ∈ (loop.performAll deeds).queue ↔ job ∈ loop.queue ∨ ∃ deed ∈ deeds, loop.Queues deed job := by
  induction deeds generalizing loop with
  | nil => simp [performAll]
  | cons deed rest ih =>
    have same : ∀ other, (loop.perform deed).Queues other job ↔ loop.Queues other job := by
      intro other
      cases other <;> simp only [Queues, recipients, listeners_perform loop (stay deed List.mem_cons_self)]
    have later : job ∈ ((loop.perform deed).performAll rest).queue ↔ _ :=
      ih fun other member => stay other (List.mem_cons_of_mem deed member)
    simp only [performAll, List.foldl_cons] at later ⊢
    rw [later, mem_queue_perform]
    simp only [List.mem_cons, exists_eq_or_imp, same, or_assoc]

end Loop

end Workbench
