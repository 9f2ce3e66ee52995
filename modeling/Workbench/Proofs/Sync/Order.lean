import Workbench.Proofs.Sync.Copies

namespace Workbench

variable {σ ε L W : Type}

namespace Loop

/-- Whether no message waits for its time. -/
def Prompt (loop : Loop L W) : Prop :=
  ∀ listener data, ¬ loop.Awaits (.delivery listener data)

variable [DecidableEq L]

/-- A deed queues its jobs behind all others. -/
theorem queue_perform (loop : Loop L W) (deed : Deed L W) :
    ∃ jobs, (loop.perform deed).queue = loop.queue ++ jobs ∧ ∀ job ∈ jobs, deed.Rushes job := by
  have none : loop.queue = loop.queue ++ [] := (List.append_nil _).symm
  have one (job : Job L W) (rushes : deed.Rushes job) : ∀ other ∈ [job], deed.Rushes other := by
    intro other member
    rw [List.mem_singleton.mp member]
    exact rushes
  cases deed with
  | subscribe listener =>
    refine ⟨[], ?_, List.forall_mem_nil _⟩
    simp only [perform, subscribe]
    split <;> exact none
  | post data sender =>
    refine ⟨_, rfl, ?_⟩
    intro job member
    obtain ⟨listener, _, same⟩ := List.mem_map.mp member
    exact ⟨listener, same.symm⟩
  | sleep span work | alarm span work =>
    by_cases atOnce : span ≤ 0
    · refine ⟨[.work work], ?_, one _ ⟨atOnce, rfl⟩⟩
      simp only [perform, schedule, atOnce, if_true, enqueue]
    · refine ⟨[], ?_, List.forall_mem_nil _⟩
      simp only [perform, schedule, atOnce, if_false]
      exact none
  | spawn work | proceed work => exact ⟨[.work work], rfl, one _ rfl⟩
  | finish failed => exact ⟨[.ended failed], rfl, one _ rfl⟩
  | unsubscribe listener | fail | note notice => exact ⟨[], none, List.forall_mem_nil _⟩

theorem queue_performAll (loop : Loop L W) (deeds : List (Deed L W)) :
    ∃ jobs, (loop.performAll deeds).queue = loop.queue ++ jobs ∧ ∀ job ∈ jobs, ∃ deed ∈ deeds, deed.Rushes job := by
  induction deeds generalizing loop with
  | nil => exact ⟨[], (List.append_nil _).symm, List.forall_mem_nil _⟩
  | cons deed rest ih =>
    obtain ⟨first, atFirst, own⟩ := loop.queue_perform deed
    obtain ⟨later, behind, others⟩ := ih (loop.perform deed)
    refine ⟨first ++ later, behind.trans (by rw [atFirst, List.append_assoc]), ?_⟩
    intro job member
    rcases List.mem_append.mp member with early | late
    · exact ⟨deed, List.mem_cons_self, own job early⟩
    · obtain ⟨other, listed, rushes⟩ := others job late
      exact ⟨other, List.mem_cons_of_mem deed listed, rushes⟩

theorem queue_notes (loop : Loop L W) (notices : List Notice) :
    (loop.performAll (notices.map .note)).queue = loop.queue := by
  induction notices generalizing loop with
  | nil => rfl
  | cons notice rest ih => exact ih (loop.perform (.note notice))

theorem Prompt.performAll {loop : Loop L W} (prompt : loop.Prompt) (deeds : List (Deed L W)) :
    (loop.performAll deeds).Prompt := by
  intro listener data awaited
  rcases awaits_performAll awaited with old | ⟨deed, _, delays⟩
  · exact prompt listener data old
  · cases deed <;> simp [Deed.Delays] at delays

end Loop

/-- The history under a key that an envelope carries. -/
def Message.carried (key : String) (data : Value) : Option (List (Fields Value)) :=
  match parse data with
  | .ok (.update snapshot) => snapshot.histories.get? key
  | .ok (.response histories _) => histories.get? key
  | _ => none

/-- The history under a key that a job brings to a portal. -/
def Job.brings (id key : String) : Job Listener Duty → Option (List (Fields Value))
  | .delivery (.portal other) data => if other = id then Message.carried key data else none
  | _ => none

/-- The history under a key in the copy of a portal. -/
def Portal.copyOf (portal : Portal) (key : String) : Option (List (Fields Value)) :=
  portal.snapshot.bind fun copy => copy.histories.get? key

theorem Message.authoritative_of_carried {key : String} {data : Value} {entries : List (Fields Value)}
    (carries : carried key data = some entries) :
    ∃ message, parse data = .ok message ∧ message.isAuthoritative = true := by
  unfold carried at carries
  split at carries
  · rename_i snapshot read
    exact ⟨_, read, rfl⟩
  · rename_i histories addressee read
    exact ⟨_, read, rfl⟩
  · cases carries

theorem Job.brings_eq_some {id key : String} {job : Job Listener Duty} {entries : List (Fields Value)} :
    job.brings id key = some entries ↔
      ∃ data, job = .delivery (.portal id) data ∧ Message.carried key data = some entries := by
  unfold brings
  constructor
  · intro brings
    split at brings
    · rename_i other data
      split at brings
      · rename_i same
        exact ⟨data, by rw [same], brings⟩
      · cases brings
    · cases brings
  · rintro ⟨data, rfl, carries⟩
    simpa using carries

namespace Moment

/-- Before anything is done, the first job leaves the queue or jobs whose time has come join it. -/
theorem queue_ground (moment : Moment σ) :
    (moment.job? = moment.exchange.loop.queue.head? ∧ moment.ground.queue = moment.exchange.loop.queue.tail) ∨
      moment.job? = none ∧ ∃ due, moment.ground.queue = moment.exchange.loop.queue ++ due ∧
        ∀ job ∈ due, moment.exchange.loop.Awaits job := by
  unfold ground job?
  cases moment.move with
  | turn time =>
    refine Or.inr ⟨rfl, _, rfl, ?_⟩
    intro job member
    obtain ⟨timer, waited, same⟩ := List.mem_map.mp member
    exact ⟨timer, (List.mem_filter.mp (List.mem_mergeSort.mp waited)).1, same⟩
  | job =>
    refine Or.inl ⟨rfl, ?_⟩
    dsimp only
    split <;> rfl
  | _ => exact Or.inr ⟨rfl, [], (List.append_nil _).symm, List.forall_mem_nil _⟩

theorem prompt_after {authority : Authority σ ε} {moment : Moment σ} (prompt : moment.exchange.loop.Prompt) :
    (moment.after authority).loop.Prompt := by
  rw [loop_after]
  refine Loop.Prompt.performAll ?_ _
  intro listener data awaited
  unfold ground at awaited
  split at awaited
  · exact prompt listener data awaited
  · obtain ⟨timer, member, same⟩ := awaited
    exact prompt listener data ⟨timer, (List.mem_filter.mp member).1, same⟩
  · split at awaited <;> exact prompt listener data awaited
  · exact prompt listener data awaited

/-- The jobs of a moment are queued behind all others. -/
theorem queue_after (authority : Authority σ ε) (moment : Moment σ) :
    ∃ jobs, (moment.after authority).loop.queue = moment.ground.queue ++ jobs ∧
      ∀ job ∈ jobs, ∃ deed, Origin authority moment deed ∧ deed.Rushes job := by
  obtain ⟨jobs, whole, own⟩ := moment.ground.queue_performAll (moment.deeds authority)
  refine ⟨jobs, by rw [loop_after, whole], ?_⟩
  intro job member
  obtain ⟨deed, done, rushes⟩ := own job member
  exact ⟨deed, origin_of_mem done, rushes⟩

/-- What is queued for some purpose leaves the queue with the job that runs, if that serves the purpose, and jobs
whose time has come bring nothing. -/
theorem filterMap_ground {α : Type} {moment : Moment σ} (pick : Job Listener Duty → Option α)
    (timeless : ∀ job, moment.exchange.loop.Awaits job → pick job = none) :
    moment.exchange.loop.queue.filterMap pick =
      (moment.job?.bind pick).toList ++ moment.ground.queue.filterMap pick := by
  rcases moment.queue_ground with ⟨running, left⟩ | ⟨still, due, whole, waited⟩
  · rw [running, left]
    cases queue : moment.exchange.loop.queue with
    | nil => rfl
    | cons job rest =>
      rw [List.head?_cons, List.tail_cons, List.filterMap_cons, Option.bind_some]
      cases pick job <;> rfl
  · have nothing : due.filterMap pick = [] :=
      List.filterMap_eq_nil_iff.mpr fun job member => timeless job (waited job member)
    rw [still, whole, List.filterMap_append, nothing, List.append_nil]
    rfl

/-- Before anything is done, a portal has still to be brought what it was to be brought, but for what reaches it
at the moment. -/
theorem brought_ground {moment : Moment σ} (prompt : moment.exchange.loop.Prompt) (id key : String) :
    (∃ data, moment.job? = some (.delivery (.portal id) data) ∧
      moment.exchange.loop.queue.filterMap (Job.brings id key) =
        (Message.carried key data).toList ++ moment.ground.queue.filterMap (Job.brings id key)) ∨
      (∀ data, moment.job? ≠ some (.delivery (.portal id) data)) ∧
        moment.ground.queue.filterMap (Job.brings id key) =
          moment.exchange.loop.queue.filterMap (Job.brings id key) := by
  -- What has waited for its time is no message.
  have timeless : ∀ job, moment.exchange.loop.Awaits job → job.brings id key = none := by
    intro job awaited
    rw [Option.eq_none_iff_forall_ne_some]
    intro entries brings
    obtain ⟨data, rfl, _⟩ := Job.brings_eq_some.mp brings
    exact prompt _ _ awaited
  have whole := moment.filterMap_ground (Job.brings id key) timeless
  by_cases own : ∃ data, moment.job? = some (.delivery (.portal id) data)
  · obtain ⟨data, running⟩ := own
    refine Or.inl ⟨data, running, ?_⟩
    rw [whole, running, Option.bind_some, Job.brings, if_pos rfl]
  · have nothing : moment.job?.bind (Job.brings id key) = none := by
      rw [Option.eq_none_iff_forall_ne_some]
      intro entries brings
      obtain ⟨job, running, brings⟩ := Option.bind_eq_some_iff.mp brings
      obtain ⟨data, rfl, _⟩ := Job.brings_eq_some.mp brings
      exact own ⟨data, running⟩
    refine Or.inr ⟨fun data running => own ⟨data, running⟩, ?_⟩
    rw [whole, nothing]
    rfl

end Moment

end Workbench
