import Workbench.Proofs.Sync.Order

namespace Workbench

variable {σ L W : Type}

/-- What happens at a channel: somebody outside has a listener join or leave, posts a message or sends everybody
away, the first job of the queue runs, and the clock is turned. -/
inductive Act (L : Type) where
  | subscribe (listener : L)
  | unsubscribe (listener : L)
  | post (data : Value) (sender : Option L)
  | close
  | job
  | turn (time : Rat)

/-- What is said of who listens: somebody joins, somebody leaves, or all of them do. -/
inductive Registration (L : Type) where
  | join (listener : L)
  | leave (listener : L)
  | clear
  deriving DecidableEq

def Deed.registration? : Deed L W → Option (Registration L)
  | .subscribe listener => some (.join listener)
  | .unsubscribe listener => some (.leave listener)
  | _ => none

/-- What an act says of who listens, beside what is done in it. -/
def Act.registration? : Act L → Option (Registration L)
  | .close => some .clear
  | _ => none

/-- A message that was posted: in which act, and what had been said of who listens by then. -/
structure Posting (L : Type) where
  time : Nat
  data : Value
  sender : Option L
  before : List (Registration L)

/-- A job that was run: in which act, and what had been said of who listens by then. -/
structure Course.Turn (L W : Type) where
  time : Nat
  job : Job L W
  before : List (Registration L)

/-- An assembly, with all that was said of who listens, the messages posted and the jobs run on the way to it, the
earliest first. Its time is the number of the acts so far. -/
structure Course (σ L W : Type) where
  time : Nat
  assembly : Assembly σ L W
  registrations : List (Registration L)
  postings : List (Posting L)
  turns : List (Course.Turn L W)

def Deed.posting? (time : Nat) (before : List (Registration L)) : Deed L W → Option (Posting L)
  | .post data sender => some ⟨time, data, sender, before⟩
  | _ => none

/-- The messages that deeds post, each with what has been said of who listens before it. -/
def Deed.postings (time : Nat) : List (Registration L) → List (Deed L W) → List (Posting L)
  | _, [] => []
  | before, deed :: rest =>
    (deed.posting? time before).toList ++ postings time (before ++ deed.registration?.toList) rest

variable [DecidableEq L]

def Registration.concerns (listener : L) : Registration L → Bool
  | .join other | .leave other => other = listener
  | .clear => true

/-- Whether a listener is subscribed: the last that was said of it, by name or of all, is that it joins. -/
def IsSubscribed (registrations : List (Registration L)) (listener : L) : Prop :=
  registrations.reverse.find? (·.concerns listener) = some (.join listener)

instance (registrations : List (Registration L)) (listener : L) : Decidable (IsSubscribed registrations listener) :=
  inferInstanceAs (Decidable (_ = _))

theorem not_isSubscribed_nil (listener : L) : ¬ IsSubscribed [] listener := by
  rintro ⟨⟩

/-- What is said last decides for those whom it concerns. -/
theorem isSubscribed_concat (registrations : List (Registration L)) (last : Registration L) (listener : L) :
    IsSubscribed (registrations ++ [last]) listener ↔
      if last.concerns listener then last = .join listener else IsSubscribed registrations listener := by
  unfold IsSubscribed
  rw [List.reverse_append, List.reverse_singleton, List.singleton_append, List.find?_cons]
  cases last.concerns listener <;> simp

/-- Whether those who listen are just those who are subscribed. -/
structure Loop.Tracks (loop : Loop L W) (registrations : List (Registration L)) : Prop where
  distinct : loop.listeners.Nodup
  listens : ∀ listener, listener ∈ loop.listeners ↔ IsSubscribed registrations listener

namespace Loop

variable {loop : Loop L W} {registrations : List (Registration L)}

theorem Tracks.of_listeners {other : Loop L W} (tracks : loop.Tracks registrations)
    (same : other.listeners = loop.listeners) : other.Tracks registrations :=
  ⟨by rw [same]; exact tracks.distinct, by rw [same]; exact tracks.listens⟩

theorem tracks_quiet (name : String) : (quiet name : Loop L W).Tracks [] where
  distinct := List.nodup_nil
  listens := fun listener => ⟨fun member => (by cases member), fun joined =>
    absurd joined (not_isSubscribed_nil listener)⟩

theorem Tracks.subscribe (tracks : loop.Tracks registrations) (listener : L) :
    (loop.subscribe listener).Tracks (registrations ++ [.join listener]) := by
  have listens (other : L) :
      other ∈ (loop.subscribe listener).listeners ↔ listener = other ∨ other ∈ loop.listeners := by
    unfold Loop.subscribe
    split
    · rename_i member
      exact ⟨Or.inr, fun either => either.elim (fun same => same ▸ member) id⟩
    · simp [or_comm, eq_comm]
  refine ⟨?_, ?_⟩
  · unfold Loop.subscribe
    split
    · exact tracks.distinct
    · rename_i fresh
      exact List.nodup_append.mpr ⟨tracks.distinct, List.nodup_singleton listener, by
        rintro other member _ same rfl
        exact fresh (List.mem_singleton.mp same ▸ member)⟩
  · intro other
    rw [listens, isSubscribed_concat, ← tracks.listens]
    by_cases same : listener = other <;> simp [Registration.concerns, same]

theorem Tracks.unsubscribe (tracks : loop.Tracks registrations) (listener : L) :
    (loop.unsubscribe listener).Tracks (registrations ++ [.leave listener]) := by
  refine ⟨tracks.distinct.erase listener, ?_⟩
  intro other
  rw [Loop.unsubscribe, tracks.distinct.mem_erase_iff, isSubscribed_concat, ← tracks.listens]
  by_cases same : listener = other
  · simp [Registration.concerns, same]
  · simp [Registration.concerns, same, Ne.symm same]

theorem tracks_close (loop : Loop L W) (registrations : List (Registration L)) :
    loop.close.Tracks (registrations ++ [.clear]) := by
  refine ⟨List.nodup_nil, ?_⟩
  intro other
  rw [isSubscribed_concat]
  simp [Loop.close, Registration.concerns]

theorem Tracks.perform (tracks : loop.Tracks registrations) (deed : Deed L W) :
    (loop.perform deed).Tracks (registrations ++ deed.registration?.toList) := by
  cases deed with
  | subscribe listener => exact tracks.subscribe listener
  | unsubscribe listener => exact tracks.unsubscribe listener
  | _ =>
    rw [Deed.registration?.eq_3 _ (by simp) (by simp), Option.toList_none, List.append_nil]
    exact tracks.of_listeners (loop.listeners_perform (by trivial))

theorem Tracks.performAll (tracks : loop.Tracks registrations) (deeds : List (Deed L W)) :
    (loop.performAll deeds).Tracks (registrations ++ deeds.filterMap Deed.registration?) := by
  induction deeds generalizing loop registrations with
  | nil => rwa [List.filterMap_nil, List.append_nil]
  | cons deed rest ih =>
    have later := ih (tracks.perform deed)
    rw [List.append_assoc] at later
    rw [List.filterMap_cons]
    cases said : deed.registration? <;> rw [said] at later <;> exact later

end Loop

namespace Assembly

/-- The assembly after an act. What cannot be posted changes nothing. -/
def after (party : Party σ L W) (assembly : Assembly σ L W) : Act L → Assembly σ L W
  | .subscribe listener => { assembly with loop := assembly.loop.subscribe listener }
  | .unsubscribe listener => { assembly with loop := assembly.loop.unsubscribe listener }
  | .post data sender => match assembly.loop.post data sender with
    | .ok loop => { assembly with loop := loop }
    | .error _ => assembly
  | .close => { assembly with loop := assembly.loop.close }
  | .job => (assembly.step? party).getD assembly
  | .turn time => { assembly with loop := assembly.loop.turnTo time }

/-- The job that an act runs. -/
def job? (assembly : Assembly σ L W) : Act L → Option (Job L W)
  | .job => assembly.loop.queue.head?
  | _ => none

/-- The loop without the job that runs, after the listeners have left or the clock has been turned. -/
def ground (assembly : Assembly σ L W) : Act L → Loop L W
  | .close => assembly.loop.close
  | .turn time => assembly.loop.turnTo time
  | .job =>
    { assembly.loop with
      queue := assembly.loop.queue.tail
      tasks := match assembly.loop.queue.head? with
        | some (.ended _) => assembly.loop.tasks - 1
        | _ => assembly.loop.tasks }
  | _ => assembly.loop

/-- What comes of an act: the state of those on the channel and what is done on its loop. -/
def outcome (party : Party σ L W) (assembly : Assembly σ L W) : Act L → σ × List (Deed L W)
  | .subscribe listener => (assembly.state, [.subscribe listener])
  | .unsubscribe listener => (assembly.state, [.unsubscribe listener])
  | .post data sender => (assembly.state, if Json.encodable data then [.post data sender] else [])
  | .close | .turn _ => (assembly.state, [])
  | .job => match assembly.loop.queue.head? with
    | none => (assembly.state, [])
    | some (.delivery listener data) =>
      if listener ∈ assembly.loop.listeners then party.hear assembly.loop.now listener data assembly.state
      else (assembly.state, [])
    | some (.work work) => party.resume assembly.loop.now work assembly.state
    | some (.rouse work) => (assembly.state, [.proceed work])
    | some (.ended failed) => (assembly.state, if failed then [.fail] else [])

theorem after_eq (party : Party σ L W) (assembly : Assembly σ L W) (act : Act L) :
    assembly.after party act =
      ⟨(assembly.ground act).performAll (assembly.outcome party act).2, (assembly.outcome party act).1⟩ := by
  cases act with
  | post data sender =>
    simp only [after, Loop.post, ground, outcome]
    cases blocked : Json.obstacle? data <;> simp only [Json.encodable, blocked] <;> rfl
  | job =>
    obtain ⟨⟨name, listeners, posted, tasks, queue, now, timers, notices⟩, state⟩ := assembly
    simp only [after, step?, ground, outcome]
    cases queue with
    | nil => rfl
    | cons job rest =>
      cases job with
      | delivery listener data =>
        simp only [run, take, Option.getD_some, List.head?_cons]
        split <;> rfl
      | ended failed => cases failed <;> rfl
      | work work | rouse work => rfl
  | subscribe listener | unsubscribe listener | close | turn time => rfl

end Assembly

/-- The course after one more act. -/
def Course.next (party : Party σ L W) (course : Course σ L W) (act : Act L) : Course σ L W where
  time := course.time + 1
  assembly := course.assembly.after party act
  registrations := course.registrations ++ act.registration?.toList ++
    (course.assembly.outcome party act).2.filterMap Deed.registration?
  postings := course.postings ++ Deed.postings course.time (course.registrations ++ act.registration?.toList)
    (course.assembly.outcome party act).2
  turns := course.turns ++ (course.assembly.job? act).toList.map (⟨course.time, ·, course.registrations⟩)

/-- The course of an assembly through acts, the earliest first. -/
def Assembly.course (party : Party σ L W) (first : Assembly σ L W) (acts : List (Act L)) : Course σ L W :=
  acts.foldl (Course.next party) ⟨0, first, [], [], []⟩

theorem Assembly.course_concat (party : Party σ L W) (first : Assembly σ L W) (acts : List (Act L)) (act : Act L) :
    first.course party (acts ++ [act]) = (first.course party acts).next party act :=
  List.foldl_concat _ _ act acts

/-- What holds at the beginning and is kept by every act holds throughout. -/
theorem Assembly.course_invariant {party : Party σ L W} {first : Assembly σ L W} (holds : Course σ L W → Prop)
    (atFirst : holds ⟨0, first, [], [], []⟩) (kept : ∀ course act, holds course → holds (course.next party act))
    (acts : List (Act L)) : holds (first.course party acts) := by
  induction acts using List.reverseRecOn with
  | nil => exact atFirst
  | append_singleton acts act ih =>
    rw [course_concat]
    exact kept _ act ih

/-- Before anything is done, those who listen are those who are subscribed. -/
theorem Assembly.tracks_ground {assembly : Assembly σ L W} {registrations : List (Registration L)}
    (tracks : assembly.loop.Tracks registrations) (act : Act L) :
    (assembly.ground act).Tracks (registrations ++ act.registration?.toList) := by
  cases act with
  | close => exact Loop.tracks_close _ registrations
  | _ =>
    rw [Act.registration?.eq_2 _ (by simp), Option.toList_none, List.append_nil]
    exact tracks.of_listeners rfl

theorem Assembly.tracks_after {party : Party σ L W} {assembly : Assembly σ L W} {registrations : List (Registration L)}
    (tracks : assembly.loop.Tracks registrations) (act : Act L) :
    (assembly.after party act).loop.Tracks (registrations ++ act.registration?.toList ++
      (assembly.outcome party act).2.filterMap Deed.registration?) := by
  rw [after_eq]
  exact (tracks_ground tracks act).performAll _

/-- Those who listen on a channel are those who are subscribed, by what was said since nobody did. -/
theorem Assembly.course_tracks (party : Party σ L W) (name : String) (state : σ) (acts : List (Act L)) :
    (course party ⟨.quiet name, state⟩ acts).assembly.loop.Tracks
      (course party ⟨.quiet name, state⟩ acts).registrations :=
  course_invariant (fun course => course.assembly.loop.Tracks course.registrations)
    (Loop.tracks_quiet name) (fun _ act tracks => tracks_after tracks act) acts

/-! ## What those on the channel hear -/

/-- What a turn lets a listener hear: the message that it delivers, if the listener is still subscribed. -/
def Course.Turn.heard? (turn : Course.Turn L W) : Option (L × Value) :=
  match turn.job with
  | .delivery listener data => if IsSubscribed turn.before listener then some (listener, data) else none
  | _ => none

/-- Those on a channel, with a record of who heard what. -/
def Party.recorded (party : Party σ L W) : Party (σ × List (L × Value)) L W where
  hear now listener data kept :=
    let (state, deeds) := party.hear now listener data kept.1
    ((state, kept.2 ++ [(listener, data)]), deeds)
  resume now work kept :=
    let (state, deeds) := party.resume now work kept.1
    ((state, kept.2), deeds)

theorem Assembly.outcome_recorded (party : Party σ L W) {assembly : Assembly σ L W}
    {registrations : List (Registration L)} (tracks : assembly.loop.Tracks registrations) (record : List (L × Value))
    (act : Act L) (time : Nat) :
    Assembly.outcome party.recorded ⟨assembly.loop, (assembly.state, record)⟩ act =
      (((assembly.outcome party act).1, record ++ ((assembly.job? act).toList.map
        (⟨time, ·, registrations⟩)).filterMap Course.Turn.heard?), (assembly.outcome party act).2) := by
  cases act with
  | job =>
    simp only [outcome, job?]
    cases assembly.loop.queue.head? with
    | none => simp
    | some job =>
      cases job with
      | delivery listener data =>
        have same := tracks.listens listener
        by_cases listens : listener ∈ assembly.loop.listeners
        · simp [listens, same.mp listens, Party.recorded, Course.Turn.heard?]
        · simp [listens, mt same.mpr listens, Course.Turn.heard?]
      | work work => simp [Party.recorded, Course.Turn.heard?]
      | rouse work | ended failed => simp [Course.Turn.heard?]
  | subscribe listener | unsubscribe listener | post data sender | close | turn time => simp [outcome, job?]

/-- The record changes nothing, and in it is what the turns let the listeners hear. -/
theorem Assembly.course_recorded (party : Party σ L W) (name : String) (state : σ) (acts : List (Act L)) :
    course party.recorded ⟨.quiet name, (state, [])⟩ acts =
      let course := course party ⟨.quiet name, state⟩ acts
      { course with
        assembly := ⟨course.assembly.loop, (course.assembly.state, course.turns.filterMap Course.Turn.heard?)⟩ } := by
  induction acts using List.reverseRecOn with
  | nil => rfl
  | append_singleton acts act ih =>
    have outcome := outcome_recorded party (course_tracks party name state acts)
      ((course party ⟨.quiet name, state⟩ acts).turns.filterMap Course.Turn.heard?) act
      (course party ⟨.quiet name, state⟩ acts).time
    simp only [course_concat, ih, Course.next, after_eq, outcome, List.filterMap_append]
    rfl

/-! ## As if nobody ever failed -/

/-- A job that does not tell of a failure. -/
def Job.calm : Job L W → Job L W
  | .ended _ => .ended false
  | job => job

def Timer.calm (timer : Timer L W) : Timer L W :=
  ⟨timer.time, timer.job.calm⟩

/-- A deed that neither fails nor is only written to the log. -/
def Deed.calm : Deed L W → Option (Deed L W)
  | .fail | .note _ => none
  | .finish _ => some (.finish false)
  | deed => some deed

/-- A loop without failures and without a log. -/
def Loop.calm (loop : Loop L W) : Loop L W :=
  { loop with queue := loop.queue.map Job.calm, timers := loop.timers.map Timer.calm, notices := [] }

def Assembly.calm (assembly : Assembly σ L W) : Assembly σ L W :=
  ⟨assembly.loop.calm, assembly.state⟩

/-- Those on a channel as if they did all they do and never failed. -/
def Party.calm (party : Party σ L W) : Party σ L W where
  hear now listener data state :=
    let (state, deeds) := party.hear now listener data state
    (state, deeds.filterMap Deed.calm)
  resume now work state :=
    let (state, deeds) := party.resume now work state
    (state, deeds.filterMap Deed.calm)

def Course.Turn.calm (turn : Course.Turn L W) : Course.Turn L W :=
  { turn with job := turn.job.calm }

namespace Loop

omit [DecidableEq L] in
theorem calm_schedule (loop : Loop L W) (span : Rat) (job : Job L W) :
    (loop.schedule span job).calm = loop.calm.schedule span job.calm := by
  unfold schedule
  split
  · simp [calm, enqueue]
  · simp [calm, Timer.calm]

theorem calm_perform (loop : Loop L W) (deed : Deed L W) :
    (loop.perform deed).calm = loop.calm.performAll deed.calm.toList := by
  cases deed with
  | subscribe listener =>
    simp only [perform, subscribe, Deed.calm, Option.toList_some, performAll, List.foldl_cons, List.foldl_nil]
    split <;> rename_i listens
    · exact (if_pos listens).symm
    · exact (if_neg listens).symm
  | post data sender =>
    simp [perform, broadcast, recipients, calm, Deed.calm, performAll, Job.calm, Function.comp_def]
  | sleep span work =>
    by_cases atOnce : span ≤ 0 <;>
      simp [perform, calm_schedule, Deed.calm, performAll, Job.calm, atOnce]
  | alarm span work => simp [perform, calm_schedule, Deed.calm, performAll, Job.calm]
  | unsubscribe listener | spawn work | proceed work | finish failed | fail | note notice =>
    simp [perform, unsubscribe, enqueue, Loop.note, calm, Deed.calm, performAll, Job.calm]

theorem calm_performAll (loop : Loop L W) (deeds : List (Deed L W)) :
    (loop.performAll deeds).calm = loop.calm.performAll (deeds.filterMap Deed.calm) := by
  induction deeds generalizing loop with
  | nil => rfl
  | cons deed rest ih =>
    have first := loop.calm_perform deed
    have whole : (loop.performAll (deed :: rest)).calm = ((loop.perform deed).performAll rest).calm := rfl
    rw [whole, ih, first, List.filterMap_cons]
    cases deed.calm <;> rfl

omit [DecidableEq L] in
theorem calm_turnTo (loop : Loop L W) (time : Rat) : (loop.turnTo time).calm = loop.calm.turnTo time := by
  have due : ((loop.timers.filter fun timer => timer.time ≤ time).mergeSort fun a b => a.time ≤ b.time).map
        Timer.calm =
      ((loop.timers.filter fun timer => timer.time ≤ time).map Timer.calm).mergeSort
        fun a b => a.time ≤ b.time :=
    List.map_mergeSort fun _ _ _ _ => rfl
  simp only [turnTo, calm, List.map_append, List.map_map, List.filter_map, Loop.mk.injEq, true_and, and_true]
  refine ⟨?_, rfl⟩
  have jobs : (Timer.job ∘ Timer.calm : Timer L W → Job L W) = Job.calm ∘ Timer.job := rfl
  have when : ((fun timer => decide (timer.time ≤ time)) ∘ Timer.calm : Timer L W → Bool) =
      fun timer => decide (timer.time ≤ time) := rfl
  rw [when, ← due, List.map_map, jobs]

end Loop

namespace Deed

omit [DecidableEq L] in
theorem registrations_calm (deeds : List (Deed L W)) :
    (deeds.filterMap calm).filterMap registration? = deeds.filterMap registration? := by
  rw [List.filterMap_filterMap]
  refine List.filterMap_congr fun deed _ => ?_
  cases deed <;> rfl

omit [DecidableEq L] in
theorem postings_calm (time : Nat) (before : List (Registration L)) (deeds : List (Deed L W)) :
    postings time before (deeds.filterMap calm) = postings time before deeds := by
  induction deeds generalizing before with
  | nil => rfl
  | cons deed rest ih =>
    have later := ih (before ++ deed.registration?.toList)
    cases deed <;> simp only [List.filterMap_cons, calm, postings] <;> rw [← later] <;>
      simp [posting?, registration?]

end Deed

namespace Assembly

omit [DecidableEq L] in
theorem ground_calm (assembly : Assembly σ L W) (act : Act L) :
    assembly.calm.ground act = (assembly.ground act).calm := by
  cases act with
  | turn time => exact (Loop.calm_turnTo _ time).symm
  | job =>
    simp only [ground, calm, Loop.calm, List.map_tail, List.head?_map]
    cases assembly.loop.queue.head? with
    | none => rfl
    | some job => cases job <;> rfl
  | subscribe listener | unsubscribe listener | post data sender | close => rfl

theorem outcome_calm (party : Party σ L W) (assembly : Assembly σ L W) (act : Act L) :
    assembly.calm.outcome party.calm act =
      ((assembly.outcome party act).1, (assembly.outcome party act).2.filterMap Deed.calm) := by
  cases act with
  | post data sender =>
    simp only [outcome]
    split <;> rfl
  | job =>
    simp only [outcome, calm, Loop.calm, List.head?_map]
    cases assembly.loop.queue.head? with
    | none => rfl
    | some job =>
      cases job with
      | delivery listener data =>
        by_cases listens : listener ∈ assembly.loop.listeners <;> simp [listens, Job.calm, Party.calm]
      | ended failed => cases failed <;> rfl
      | work work | rouse work => rfl
  | subscribe listener | unsubscribe listener | close | turn time => rfl

omit [DecidableEq L] in
theorem job?_calm (assembly : Assembly σ L W) (act : Act L) :
    assembly.calm.job? act = (assembly.job? act).map Job.calm := by
  cases act with
  | job => exact List.head?_map
  | subscribe listener | unsubscribe listener | post data sender | close | turn time => rfl

/-- Without failures, an assembly goes the same course. -/
theorem course_calm (party : Party σ L W) (first : Assembly σ L W) (acts : List (Act L)) :
    first.calm.course party.calm acts =
      let course := first.course party acts
      { course with assembly := course.assembly.calm, turns := course.turns.map Course.Turn.calm } := by
  induction acts using List.reverseRecOn with
  | nil => rfl
  | append_singleton acts act ih =>
    simp only [course_concat, ih, Course.next, after_eq, outcome_calm, ground_calm, job?_calm,
      ← Loop.calm_performAll, Deed.postings_calm, Deed.registrations_calm, List.map_append, Course.mk.injEq, true_and]
    refine ⟨rfl, ?_⟩
    cases (first.course party acts).assembly.job? act <;> rfl

end Assembly

end Workbench
