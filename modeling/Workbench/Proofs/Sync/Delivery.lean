import Workbench.Proofs.Sync.Course

namespace Workbench

variable {σ L W : Type}

/-- Whether a job delivers to a listener. -/
def Job.IsFor (listener : L) : Job L W → Prop
  | .delivery other _ => other = listener
  | _ => False

variable [DecidableEq L]

/-- Whether a message goes to a listener: it is subscribed when the message is posted and has not sent it itself. -/
def Posting.IsFor (posting : Posting L) (listener : L) : Prop :=
  IsSubscribed posting.before listener ∧ posting.sender ≠ some listener

instance (posting : Posting L) (listener : L) : Decidable (posting.IsFor listener) :=
  inferInstanceAs (Decidable (_ ∧ _))

instance (listener : L) : (job : Job L W) → Decidable (job.IsFor listener)
  | .delivery other _ => inferInstanceAs (Decidable (other = listener))
  | .work _ | .rouse _ | .ended _ => inferInstanceAs (Decidable False)

/-- The messages for a listener, in the order in which they were posted, have each been delivered once, in that
order and in a later act than the one that posted it, up to some whose deliveries stand in the queue, in that order
too. -/
def Course.Serves (course : Course σ L W) (listener : L) : Prop :=
  ∃ served waiting,
    course.postings.filter (·.IsFor listener) = served ++ waiting ∧
      List.Forall₂ (fun posting turn => turn.job = .delivery listener posting.data ∧ posting.time < turn.time) served
        (course.turns.filter (·.job.IsFor listener)) ∧
      course.assembly.loop.queue.filter (·.IsFor listener) =
        waiting.map fun posting => .delivery listener posting.data

namespace Loop

omit [DecidableEq L] in
theorem time_of_mem_postings {time : Nat} {before : List (Registration L)} {deeds : List (Deed L W)}
    {posting : Posting L} (member : posting ∈ Deed.postings time before deeds) : posting.time = time := by
  induction deeds generalizing before with
  | nil => cases member
  | cons deed rest ih =>
    rcases List.mem_append.mp member with first | later
    · cases deed with
      | post data sender =>
        rw [List.mem_singleton.mp first]
      | _ => cases first
    · exact ih later

/-- A message is queued for a listener once if it goes to it, and not at all if it does not. -/
theorem filter_recipients {loop : Loop L W} {before : List (Registration L)} (tracks : loop.Tracks before)
    (time : Nat) (data : Value) (sender : Option L) (listener : L) :
    ((loop.recipients sender).map fun other => (.delivery other data : Job L W)).filter (·.IsFor listener) =
      ([⟨time, data, sender, before⟩].filter fun posting : Posting L => posting.IsFor listener).map
        fun posting => .delivery listener posting.data := by
  have alone : (loop.recipients sender).filter (fun other => decide (other = listener)) =
      List.replicate ((loop.recipients sender).count listener) listener := List.filter_eq listener
  have once : (loop.recipients sender).count listener = if listener ∈ loop.recipients sender then 1 else 0 :=
    (tracks.distinct.filter _).count
  have own : (fun job : Job L W => decide (job.IsFor listener)) ∘ (fun other => .delivery other data) =
      fun other => decide (other = listener) := rfl
  rw [List.filter_map, own, alone, once]
  have same : listener ∈ loop.recipients sender ↔ Posting.IsFor ⟨time, data, sender, before⟩ listener := by
    rw [recipients, List.mem_filter, decide_eq_true_iff, tracks.listens, Posting.IsFor]
  by_cases goes : Posting.IsFor ⟨time, data, sender, before⟩ listener <;> simp [same, goes]

/-- Deeds queue for a listener the messages that go to it, in the order in which they post them, behind all that
is queued for it. -/
theorem filter_queue_performAll {loop : Loop L W} {before : List (Registration L)} (tracks : loop.Tracks before)
    (deeds : List (Deed L W)) (time : Nat) (listener : L) :
    (loop.performAll deeds).queue.filter (·.IsFor listener) =
      loop.queue.filter (·.IsFor listener) ++
        ((Deed.postings time before deeds).filter (·.IsFor listener)).map
          fun posting => .delivery listener posting.data := by
  induction deeds generalizing loop before with
  | nil => exact (List.append_nil _).symm
  | cons deed rest ih =>
    have later := ih (tracks.perform deed)
    have whole : (loop.performAll (deed :: rest)).queue = ((loop.perform deed).performAll rest).queue := rfl
    rw [whole, later, Deed.postings, List.filter_append, List.map_append, ← List.append_assoc]
    congr 1
    by_cases posts : ∃ data sender, deed = .post data sender
    · obtain ⟨data, sender, rfl⟩ := posts
      have first : (loop.perform (.post data sender)).queue =
          loop.queue ++ (loop.recipients sender).map fun other => .delivery other data := rfl
      rw [first, List.filter_append, filter_recipients tracks time]
      rfl
    · obtain ⟨jobs, first, own⟩ := loop.queue_perform deed
      have none : jobs.filter (·.IsFor listener) = [] := by
        rw [List.filter_eq_nil_iff]
        intro job member
        have rushes := own job member
        cases deed with
        | post data sender => exact absurd ⟨data, sender, rfl⟩ posts
        | subscribe other | unsubscribe other | fail | note notice => exact rushes.elim
        | spawn work | proceed work | finish failed =>
          rw [show job = _ from rushes]
          exact of_decide_eq_false rfl
        | sleep span work | alarm span work =>
          rw [show job = _ from rushes.2]
          exact of_decide_eq_false rfl
      have nothing : deed.posting? time before = .none := by
        cases deed with
        | post data sender => exact absurd ⟨data, sender, rfl⟩ posts
        | _ => rfl
      rw [first, nothing, List.filter_append, none, List.append_nil]
      exact (List.append_nil _).symm

end Loop

namespace Assembly

omit [DecidableEq L] in
/-- Before anything is done, the queue is without the job that runs, and jobs whose time has come join it. -/
theorem queue_ground (assembly : Assembly σ L W) (act : Act L) :
    ∃ due, (assembly.job? act).toList ++ (assembly.ground act).queue = assembly.loop.queue ++ due ∧
      ∀ job ∈ due, assembly.loop.Awaits job := by
  cases act with
  | turn time =>
    refine ⟨_, rfl, ?_⟩
    intro job member
    obtain ⟨timer, waited, same⟩ := List.mem_map.mp member
    exact ⟨timer, (List.mem_filter.mp (List.mem_mergeSort.mp waited)).1, same⟩
  | job =>
    refine ⟨[], ?_, List.forall_mem_nil _⟩
    simp only [job?, ground]
    cases assembly.loop.queue <;> simp
  | _ => exact ⟨[], (List.append_nil _).symm, List.forall_mem_nil _⟩

omit [DecidableEq L] in
theorem awaits_ground {assembly : Assembly σ L W} {act : Act L} {job : Job L W}
    (awaited : (assembly.ground act).Awaits job) : assembly.loop.Awaits job := by
  cases act with
  | turn time =>
    obtain ⟨timer, member, same⟩ := awaited
    exact ⟨timer, (List.mem_filter.mp member).1, same⟩
  | _ => exact awaited

end Assembly

namespace Course

/-- What carries the service of a listener from one act to the next. -/
structure Delivers (course : Course σ L W) (listener : L) : Prop where
  tracks : course.assembly.loop.Tracks course.registrations
  prompt : course.assembly.loop.Prompt
  early : ∀ posting ∈ course.postings, posting.time < course.time
  serves : course.Serves listener

theorem Delivers.start (name : String) (state : σ) (listener : L) :
    Delivers (W := W) ⟨0, ⟨.quiet name, state⟩, [], [], []⟩ listener where
  tracks := Loop.tracks_quiet name
  prompt := by
    rintro _ _ ⟨timer, member, _⟩
    cases member
  early := List.forall_mem_nil _
  serves := ⟨[], [], rfl, .nil, rfl⟩

theorem Delivers.next {course : Course σ L W} {listener : L} (delivers : course.Delivers listener)
    (party : Party σ L W) (act : Act L) : (course.next party act).Delivers listener := by
  have grounded := Assembly.tracks_ground delivers.tracks act
  refine ⟨Assembly.tracks_after delivers.tracks act, ?_, ?_, ?_⟩
  · rw [Course.next, Assembly.after_eq]
    have prompt : (course.assembly.ground act).Prompt := fun other data awaited =>
      delivers.prompt other data (Assembly.awaits_ground awaited)
    exact prompt.performAll _
  · intro posting member
    rcases List.mem_append.mp member with old | new
    · exact Nat.lt_succ_of_lt (delivers.early posting old)
    · exact Nat.lt_succ_of_le (Loop.time_of_mem_postings new).le
  · obtain ⟨served, waiting, posted, called, queued⟩ := delivers.serves
    obtain ⟨due, whole, awaited⟩ := course.assembly.queue_ground act
    -- No delivery has waited for its time.
    have timeless : due.filter (·.IsFor listener) = [] := by
      rw [List.filter_eq_nil_iff]
      intro job member own
      cases job with
      | delivery other data => exact delivers.prompt other data (awaited _ member)
      | work work | rouse work | ended failed => exact of_decide_eq_true own
    have parts := congrArg (List.filter fun job => decide (job.IsFor listener)) whole
    rw [List.filter_append, List.filter_append, timeless, List.append_nil, queued] at parts
    -- The job that runs is the delivery of the first message that waits, or it delivers nothing to the listener.
    obtain ⟨first, rest, split, running, left⟩ := List.map_eq_append_iff.mp parts.symm
    refine ⟨served ++ first, rest ++ (Deed.postings course.time (course.registrations ++ act.registration?.toList)
      (course.assembly.outcome party act).2).filter (·.IsFor listener), ?_, ?_, ?_⟩
    · simp only [Course.next, List.filter_append, posted, split, List.append_assoc]
    · simp only [Course.next, List.filter_append]
      refine List.rel_append called ?_
      have turns : ((course.assembly.job? act).toList.map fun job =>
            (⟨course.time, job, course.registrations⟩ : Course.Turn L W)).filter (·.job.IsFor listener) =
          ((course.assembly.job? act).toList.filter (·.IsFor listener)).map
            fun job => ⟨course.time, job, course.registrations⟩ := List.filter_map
      rw [turns, ← running, List.forall₂_map_right_iff, List.forall₂_map_right_iff, List.forall₂_same]
      intro posting member
      have listed : posting ∈ course.postings.filter (·.IsFor listener) := by
        rw [posted, split]
        exact List.mem_append_right _ (List.mem_append_left _ member)
      exact ⟨rfl, delivers.early posting (List.mem_filter.mp listed).1⟩
    · simp only [Course.next, Assembly.after_eq, Loop.filter_queue_performAll grounded _ course.time,
        List.map_append, left]

/-- As many turns of the loop as there are jobs in its queue run these jobs, one after another. -/
theorem turns_of_jobs (party : Party σ L W) (course : Course σ L W) (count : Nat)
    (enough : count ≤ course.assembly.loop.queue.length) :
    let later := (List.replicate count Act.job).foldl (next party) course
    later.turns.map Course.Turn.job = course.turns.map Course.Turn.job ++ course.assembly.loop.queue.take count ∧
      ∃ jobs, later.assembly.loop.queue = course.assembly.loop.queue.drop count ++ jobs := by
  induction count with
  | zero => exact ⟨by simp, [], by simp⟩
  | succ count ih =>
    obtain ⟨turns, jobs, queue⟩ := ih (Nat.le_of_succ_le enough)
    have first := List.drop_eq_getElem_cons enough
    rw [List.replicate_succ', List.foldl_concat]
    generalize (List.replicate count Act.job).foldl (next party) course = later at turns queue
    rw [first, List.cons_append] at queue
    obtain ⟨more, behind, _⟩ := (later.assembly.ground .job).queue_performAll
      (later.assembly.outcome party .job).2
    refine ⟨?_, jobs ++ more, ?_⟩
    · simp only [next, Assembly.job?, queue, List.head?_cons, Option.toList_some, List.map_append, List.map_cons,
        List.map_nil, turns, List.append_assoc, List.take_append_getElem enough]
    · rw [next, Assembly.after_eq, behind]
      simp only [Assembly.ground, queue, List.tail_cons, List.append_assoc]

/-- Once the jobs have been run that are queued now, every message posted so far has been delivered to those to whom
it goes. -/
theorem Serves.later {course : Course σ L W} {listener : L} (serves : course.Serves listener)
    (party : Party σ L W) :
    let later := (List.replicate course.assembly.loop.queue.length Act.job).foldl (next party) course
    (course.postings.filter (·.IsFor listener)).length ≤ (later.turns.filter (·.job.IsFor listener)).length := by
  obtain ⟨served, waiting, posted, called, queued⟩ := serves
  obtain ⟨turns, _⟩ := turns_of_jobs party course _ le_rfl
  have jobs := congrArg (fun jobs => (jobs.filter fun job => decide (job.IsFor listener)).length) turns
  simp only [List.take_length, List.filter_append, List.filter_map, List.length_append, List.length_map, queued]
    at jobs
  have before := called.length_eq
  rw [posted, List.length_append, before]
  exact jobs.ge

end Course

/-! ## Listeners that begin a task -/

/-- Whether a deed begins no task from which a message is told, now or later. -/
def Deed.Foreign (message? : W → Option Value) : Deed L W → Prop
  | .spawn work | .proceed work | .sleep _ work | .alarm _ work => message? work = none
  | _ => True

omit [DecidableEq L] in
theorem Deed.Foreign.of_leadsTo {message? : W → Option Value} {deed : Deed L W} (foreign : deed.Foreign message?)
    {work : W} (leads : deed.LeadsTo (.work work) ∨ deed.LeadsTo (.rouse work)) : message? work = none := by
  cases deed with
  | spawn other | proceed other | sleep span other | alarm span other =>
    have same : work = other := by
      simp only [LeadsTo, Rushes, Delays, Job.work.injEq, Job.rouse.injEq, reduceCtorEq, and_false, or_false,
        false_or] at leads
      first
        | exact leads
        | exact leads.elim And.right And.right
    rw [same]
    exact foreign
  | _ => simp [LeadsTo, Rushes, Delays] at leads

/-- Whether a listener begins a task of its own with each message, as a coroutine does, and nobody else begins such
a task: from its first work one can tell the message. -/
structure Party.Spawns (party : Party σ L W) (listener : L) (message? : W → Option Value) : Prop where
  own : ∀ now data state, ∃ work,
    message? work = some data ∧ (party.hear now listener data state).2 = [.spawn work]
  others : ∀ now other data state, other ≠ listener →
    ∀ deed ∈ (party.hear now other data state).2, deed.Foreign message?
  works : ∀ now work state, ∀ deed ∈ (party.resume now work state).2, deed.Foreign message?

/-- The message with which a job begins a task. -/
def Job.begun? (message? : W → Option Value) : Job L W → Option Value
  | .work first => message? first
  | _ => none

/-- The messages that the turns of a course let a listener hear. -/
def Course.heard (course : Course σ L W) (listener : L) : List Value :=
  ((course.turns.filterMap Course.Turn.heard?).filter fun heard => heard.1 = listener).map Prod.snd

namespace Course

/-- What carries the tasks of a listener from one act to the next. -/
structure Begins (course : Course σ L W) (listener : L) (message? : W → Option Value) : Prop where
  tracks : course.assembly.loop.Tracks course.registrations
  awaited : ∀ work, course.assembly.loop.Awaits (.work work) → message? work = none
  roused : ∀ work, course.assembly.loop.Pending (.rouse work) → message? work = none
  begins : course.turns.filterMap (·.job.begun? message?) ++
    course.assembly.loop.queue.filterMap (·.begun? message?) = course.heard listener

theorem Begins.start (name : String) (state : σ) (listener : L) (message? : W → Option Value) :
    Begins ⟨0, ⟨.quiet name, state⟩, [], [], []⟩ listener message? where
  tracks := Loop.tracks_quiet name
  awaited := by
    rintro _ ⟨timer, member, _⟩
    cases member
  roused := by
    rintro _ (member | ⟨timer, member, _⟩) <;> cases member
  begins := rfl

/-- In an act the listener hears a message and begins its task, or nothing is done that leads to such a task. -/
theorem Begins.outcome_cases {course : Course σ L W} {listener : L} {message? : W → Option Value}
    (begins : course.Begins listener message?) {party : Party σ L W} (spawns : party.Spawns listener message?)
    (act : Act L) :
    (∃ data work, course.assembly.job? act = some (.delivery listener data) ∧
      listener ∈ course.assembly.loop.listeners ∧ message? work = some data ∧
      (course.assembly.outcome party act).2 = [.spawn work]) ∨
      (∀ data, course.assembly.job? act = some (.delivery listener data) →
        listener ∉ course.assembly.loop.listeners) ∧
      ∀ deed ∈ (course.assembly.outcome party act).2, deed.Foreign message? := by
  have nothing : ∀ deed ∈ ([] : List (Deed L W)), deed.Foreign message? := List.forall_mem_nil _
  have one (deed : Deed L W) (foreign : deed.Foreign message?) : ∀ other ∈ [deed], other.Foreign message? := by
    intro other member
    rw [List.mem_singleton.mp member]
    exact foreign
  cases act with
  | subscribe other | unsubscribe other => exact Or.inr ⟨fun _ running => (by cases running), one _ trivial⟩
  | post data sender =>
    refine Or.inr ⟨fun _ running => (by cases running), ?_⟩
    simp only [Assembly.outcome]
    split
    · exact one _ trivial
    · exact nothing
  | close | turn time => exact Or.inr ⟨fun _ running => (by cases running), nothing⟩
  | job =>
    simp only [Assembly.job?, Assembly.outcome]
    cases head : course.assembly.loop.queue.head? with
    | none => exact Or.inr ⟨fun _ running => (by cases running), nothing⟩
    | some job =>
      cases job with
      | delivery other data =>
        by_cases listens : other ∈ course.assembly.loop.listeners
        · simp only [if_pos listens]
          by_cases own : other = listener
          · subst own
            obtain ⟨work, told, spawned⟩ := spawns.own course.assembly.loop.now data course.assembly.state
            exact Or.inl ⟨data, work, rfl, listens, told, spawned⟩
          · refine Or.inr ⟨?_, spawns.others _ other data _ own⟩
            intro _ running
            cases running
            exact absurd rfl own
        · simp only [if_neg listens]
          refine Or.inr ⟨?_, nothing⟩
          intro _ running
          cases running
          exact listens
      | work work => exact Or.inr ⟨fun _ running => (by cases running), spawns.works _ work _⟩
      | rouse work =>
        have queued : .rouse work ∈ course.assembly.loop.queue := List.mem_of_mem_head? head
        exact Or.inr ⟨fun _ running => (by cases running), one _ (begins.roused work (Or.inl queued))⟩
      | ended failed =>
        refine Or.inr ⟨fun _ running => (by cases running), ?_⟩
        dsimp only
        split
        · exact one _ trivial
        · exact nothing

/-- The jobs that an act queues begin the task of the message that the listener hears in it. -/
theorem Begins.queue_next {course : Course σ L W} {listener : L} {message? : W → Option Value}
    (begins : course.Begins listener message?) {party : Party σ L W} (spawns : party.Spawns listener message?)
    (act : Act L) :
    ∃ jobs, (course.next party act).assembly.loop.queue = (course.assembly.ground act).queue ++ jobs ∧
      (course.next party act).heard listener = course.heard listener ++ jobs.filterMap (·.begun? message?) := by
  simp only [Course.next, Assembly.after_eq, heard, List.filterMap_append, List.filter_append, List.map_append]
  rcases begins.outcome_cases spawns act with ⟨data, work, running, listens, told, spawned⟩ | ⟨unheard, foreign⟩
  · refine ⟨[.work work], by rw [spawned]; rfl, ?_⟩
    simp [running, Course.Turn.heard?, (begins.tracks.listens listener).mp listens, Job.begun?, told]
  · obtain ⟨jobs, queue, rushed⟩ := (course.assembly.ground act).queue_performAll
      (course.assembly.outcome party act).2
    refine ⟨jobs, queue, ?_⟩
    have nothing : jobs.filterMap (·.begun? message?) = [] := by
      rw [List.filterMap_eq_nil_iff]
      intro job member
      obtain ⟨deed, done, rushes⟩ := rushed job member
      cases job with
      | work work => exact (foreign deed done).of_leadsTo (Or.inl (Or.inl rushes))
      | _ => rfl
    rw [nothing]
    congr 1
    cases running : course.assembly.job? act with
    | none => rfl
    | some job =>
      cases job with
      | delivery other data =>
        by_cases own : other = listener
        · subst own
          simp [Course.Turn.heard?, mt (begins.tracks.listens other).mpr (unheard data running)]
        · by_cases joined : IsSubscribed course.registrations other <;> simp [Course.Turn.heard?, joined, own]
      | _ => simp [Course.Turn.heard?]

theorem Begins.next {course : Course σ L W} {listener : L} {message? : W → Option Value}
    (begins : course.Begins listener message?) {party : Party σ L W} (spawns : party.Spawns listener message?)
    (act : Act L) : (course.next party act).Begins listener message? := by
  obtain ⟨due, whole, timed⟩ := course.assembly.queue_ground act
  -- Neither the listener's task nor anybody else's deeds have such a task begin later.
  have led (deed : Deed L W) (done : deed ∈ (course.assembly.outcome party act).2) (work : W) :
      (deed.Delays (.work work) → message? work = none) ∧ (deed.LeadsTo (.rouse work) → message? work = none) := by
    rcases begins.outcome_cases spawns act with ⟨_, _, _, _, _, spawned⟩ | ⟨_, foreign⟩
    · rw [spawned, List.mem_singleton] at done
      subst done
      exact ⟨False.elim, by rintro (same | late) <;> contradiction⟩
    · exact ⟨fun delays => (foreign deed done).of_leadsTo (Or.inl (Or.inr delays)),
        fun leads => (foreign deed done).of_leadsTo (Or.inr leads)⟩
  refine ⟨Assembly.tracks_after begins.tracks act, ?_, ?_, ?_⟩
  · intro work awaited
    rw [Course.next, Assembly.after_eq] at awaited
    rcases Loop.awaits_performAll awaited with old | ⟨deed, done, delays⟩
    · exact begins.awaited work (Assembly.awaits_ground old)
    · exact (led deed done work).1 delays
  · intro work pending
    rw [Course.next, Assembly.after_eq] at pending
    rcases Loop.pending_performAll pending with (queued | old) | ⟨deed, done, leads⟩
    · have member : .rouse work ∈ course.assembly.loop.queue ++ due := by
        rw [← whole]
        exact List.mem_append_right _ queued
      exact begins.roused work ((List.mem_append.mp member).imp_right (timed _))
    · exact begins.roused work (Or.inr (Assembly.awaits_ground old))
    · exact (led deed done work).2 leads
  · obtain ⟨jobs, queue, heard⟩ := begins.queue_next spawns act
    have timeless : due.filterMap (·.begun? message?) = [] := by
      rw [List.filterMap_eq_nil_iff]
      intro job member
      cases job with
      | work work => exact begins.awaited work (timed _ member)
      | _ => rfl
    have parts := congrArg (List.filterMap (·.begun? message?)) whole
    rw [List.filterMap_append, List.filterMap_append, timeless, List.append_nil] at parts
    have turns : (course.next party act).turns.filterMap (·.job.begun? message?) =
        course.turns.filterMap (·.job.begun? message?) ++
          (course.assembly.job? act).toList.filterMap (·.begun? message?) := by
      rw [Course.next, List.filterMap_append, List.filterMap_map]
      rfl
    rw [queue, turns, heard, ← begins.begins, ← parts, List.filterMap_append]
    simp only [List.append_assoc]

end Course

/-- Deliveries on a channel that nobody has listened to before, whatever is done to it and however those on it
react, each of them joining, leaving and posting as well:

* those listen who are subscribed, by the last that was said of them;
* each message is delivered once to each of those to whom it goes, in the order in which the messages are posted, as
  it was posted and in a later act; what is queued at some time has been delivered when that many jobs have run;
* what they hear is what is delivered to them while they are subscribed;
* who begins a task with each message begins one for each that it hears, in that order;
* and it changes nothing in what anybody hears or does who of them fails. -/
theorem Assembly.deliveries_exact (party : Party σ L W) (name : String) (state : σ) (acts : List (Act L))
    (listener : L) :
    let course := Assembly.course party ⟨.quiet name, state⟩ acts
    let recorded := Assembly.course party.recorded ⟨.quiet name, (state, [])⟩ acts
    (listener ∈ course.assembly.loop.listeners ↔ IsSubscribed course.registrations listener) ∧
    course.Serves listener ∧
    (course.postings.filter (·.IsFor listener)).length ≤ ((Assembly.course party ⟨.quiet name, state⟩
      (acts ++ List.replicate course.assembly.loop.queue.length .job)).turns.filter (·.job.IsFor listener)).length ∧
    recorded.assembly = ⟨course.assembly.loop, (course.assembly.state, course.turns.filterMap Course.Turn.heard?)⟩ ∧
    (∀ message?, party.Spawns listener message? →
      course.turns.filterMap (·.job.begun? message?) ++
        course.assembly.loop.queue.filterMap (·.begun? message?) = course.heard listener) ∧
    ∀ other : Party σ L W, other.calm = party.calm →
      (Assembly.course other.recorded ⟨.quiet name, (state, [])⟩ acts).assembly.state =
        recorded.assembly.state := by
  intro course recorded
  have serves : course.Serves listener :=
    (Assembly.course_invariant (·.Delivers listener) (.start name state listener)
      (fun _ act delivers => delivers.next party act) acts).serves
  refine ⟨(Assembly.course_tracks party name state acts).listens listener, serves, ?_,
    congrArg Course.assembly (Assembly.course_recorded party name state acts), ?_, ?_⟩
  · have later := serves.later party
    rwa [Assembly.course, List.foldl_append]
  · intro message? spawns
    exact (Assembly.course_invariant (·.Begins listener message?) (.start name state listener message?)
      (fun _ act begins => begins.next spawns act) acts).begins
  · intro other same
    -- Both go the course of those who never fail.
    have calm (party : Party σ L W) :
        (Assembly.course party.recorded.calm ⟨.quiet name, (state, [])⟩ acts).assembly.state =
          (Assembly.course party.recorded ⟨.quiet name, (state, [])⟩ acts).assembly.state :=
      congrArg (fun course => course.assembly.state)
        (Assembly.course_calm party.recorded ⟨.quiet name, (state, [])⟩ acts)
    have alike : other.recorded.calm = party.recorded.calm := congrArg Party.recorded same
    rw [← calm other, alike, calm party]

/-- Two on a channel who always fail, the one at once and the other in the task that it begins. -/
def failing : Party Unit Bool Value where
  hear _ listener data state := (state, if listener then [.spawn data] else [.fail])
  resume _ _ state := (state, [.finish true])

/-- The same two, but that neither fails. -/
def steady : Party Unit Bool Value where
  hear _ listener data state := (state, if listener then [.spawn data] else [])
  resume _ _ state := (state, [.finish false])

theorem failing_spawns : failing.Spawns true some where
  own _ data _ := ⟨data, rfl, rfl⟩
  others := by
    intro _ other _ _ differs deed done
    cases other with
    | false =>
      rw [List.mem_singleton.mp done]
      trivial
    | true => exact absurd rfl differs
  works := by
    intro _ _ _ deed done
    rw [List.mem_singleton.mp done]
    trivial

theorem failing_deliveries :
    let acts : List (Act Bool) := [.subscribe false, .subscribe true, .post (.bool true) (some false),
      .post .null none, .post .null (some true), .job, .job, .unsubscribe false, .job, .job]
    let course := Assembly.course failing ⟨.quiet "t", ()⟩ acts
    failing.Spawns true some ∧ steady.calm = failing.calm ∧
      course.turns.filterMap (·.job.begun? some) ++ course.assembly.loop.queue.filterMap (·.begun? some) =
        [.bool true, .null] ∧
      (Assembly.course steady.recorded ⟨.quiet "t", ((), [])⟩ acts).assembly.state.2 =
        [(true, .bool true), (false, .null), (true, .null)] := by
  intro acts course
  have calm : steady.calm = failing.calm := by
    simp only [Party.calm, steady, failing, Party.mk.injEq]
    refine ⟨?_, rfl⟩
    funext now listener data state
    cases listener <;> rfl
  obtain ⟨_, _, _, kept, begins, apart⟩ := Assembly.deliveries_exact failing "t" () acts true
  refine ⟨failing_spawns, calm, (begins some failing_spawns).trans (by decide +kernel), ?_⟩
  have same := congrArg Prod.snd ((apart steady calm).trans (congrArg Assembly.state kept))
  exact same.trans (by decide +kernel)

end Workbench
