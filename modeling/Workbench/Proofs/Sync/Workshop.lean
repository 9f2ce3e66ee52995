import Workbench.Proofs.Sync.Order
import Workbench.Sync.Workshop

namespace Workbench

/-- What happens at a workshop: a move at its exchange, where chores are left to workers, a stretch of work, and
the posting of what a worker has come to. -/
inductive Workshop.Step (σ : Type) where
  | move (move : Move σ)
  | work (place : Nat)
  | post (place : Nat)

/-- A step and the workshop just before it. -/
structure Instant (σ ε τ : Type) where
  workshop : Workshop σ ε τ
  step : Workshop.Step σ

variable {σ ε τ : Type} {crew : Crew σ ε τ}

namespace Workshop

def after (crew : Crew σ ε τ) (workshop : Workshop σ ε τ) : Step σ → Workshop σ ε τ
  | .move .job => workshop.run crew
  | .move move => { workshop with exchange := workshop.exchange.after crew.toAuthority move }
  | .work place => workshop.work crew place
  | .post place => workshop.post place

/-- The workshop after steps, the first one first. -/
def afterAll (crew : Crew σ ε τ) (workshop : Workshop σ ε τ) (steps : List (Step σ)) : Workshop σ ε τ :=
  steps.foldl (after crew) workshop

/-- The workshops that come of one by steps of some kind, each with the instants that led to it, the latest first. -/
inductive Run (crew : Crew σ ε τ) (allowed : Instant σ ε τ → Prop) (first : Workshop σ ε τ) :
    List (Instant σ ε τ) → Workshop σ ε τ → Prop
  | start : Run crew allowed first [] first
  | next {past workshop} (step : Step σ) : Run crew allowed first past workshop → allowed ⟨workshop, step⟩ →
      Run crew allowed first (⟨workshop, step⟩ :: past) (workshop.after crew step)

/-- The instants of steps and the workshop that they lead to, both with the latest first. -/
def trace (crew : Crew σ ε τ) (first : Workshop σ ε τ) : List (Step σ) → List (Instant σ ε τ) × Workshop σ ε τ
  | [] => ([], first)
  | step :: earlier =>
    let (past, workshop) := trace crew first earlier
    (⟨workshop, step⟩ :: past, workshop.after crew step)

variable {first workshop : Workshop σ ε τ} {past later earlier : List (Instant σ ε τ)}

theorem Run.of_trace {allowed : Instant σ ε τ → Prop} {steps : List (Step σ)}
    (permitted : ∀ instant ∈ (first.trace crew steps).1, allowed instant) :
    Run crew allowed first (first.trace crew steps).1 (first.trace crew steps).2 := by
  induction steps with
  | nil => exact .start
  | cons step earlier ih =>
    have before := ih fun instant member => permitted instant (List.mem_cons_of_mem _ member)
    exact .next step before (permitted _ List.mem_cons_self)

theorem Run.allowed {allowed : Instant σ ε τ → Prop} (run : Run crew allowed first past workshop) :
    ∀ instant ∈ past, allowed instant := by
  induction run with
  | start => exact List.forall_mem_nil _
  | next step previous permitted ih => exact List.forall_mem_cons.mpr ⟨permitted, ih⟩

/-- A run through some instant is a run up to it and a run from there on. -/
theorem Run.split {allowed : Instant σ ε τ → Prop} {instant : Instant σ ε τ}
    (run : Run crew allowed first (later ++ instant :: earlier) workshop) :
    Run crew allowed first earlier instant.workshop ∧ allowed instant ∧
      Run crew allowed (instant.workshop.after crew instant.step) later workshop := by
  induction later generalizing workshop with
  | nil =>
    cases run with
    | next step previous permitted => exact ⟨previous, permitted, .start⟩
  | cons last later ih =>
    cases run with
    | next step previous permitted =>
      obtain ⟨before, own, between⟩ := ih previous
      exact ⟨before, own, .next step between permitted⟩

/-- What a step comes to. A chore is left to a worker, so no move has one done. -/
inductive Goes (crew : Crew σ ε τ) (workshop : Workshop σ ε τ) : Step σ → Workshop σ ε τ → Prop
  | hired {data : Value} {rest : List (Job Listener Duty)} {chore : Chore} :
      workshop.exchange.loop.queue = .work (.answer data) :: rest → Primary.choreOf data = some chore →
      Goes crew workshop (.move .job)
        ⟨{ workshop.exchange with loop := { workshop.exchange.loop with queue := rest } },
          workshop.workers ++ [.busy (crew.begin chore)]⟩
  | moved {move : Move σ} :
      (∀ data, Moment.answered? ⟨workshop.exchange, move⟩ = some data → Primary.choreOf data = none) →
      Goes crew workshop (.move move) ⟨workshop.exchange.after crew.toAuthority move, workshop.workers⟩
  | worked {place : Nat} {stage : τ} {worker : Worker ε τ} {source : σ} {notices : List Notice} :
      workshop.workers[place]? = some (.busy stage) →
      crew.work stage workshop.exchange.state.source = (worker, source, notices) →
      Goes crew workshop (.work place)
        ⟨workshop.exchange.take ({ workshop.exchange.state with source := source }, notices.map .note),
          workshop.workers.set place worker⟩
  | posted {place : Nat} {yield : Yield ε} {primary : Primary} {notices : List Notice} :
      workshop.workers[place]? = some (.done yield) →
      workshop.exchange.state.primary.reply yield = (primary, notices, yield.answer) →
      Goes crew workshop (.post place)
        ⟨workshop.exchange.take (workshop.exchange.state.takePrimary
            ⟨primary, workshop.exchange.state.source, notices, yield.answer.map some⟩),
          workshop.workers.eraseIdx place⟩
  | rested {step : Step σ} : (∀ move, step ≠ .move move) → Goes crew workshop step workshop

theorem chore?_eq_some {chore : Chore} (sets : workshop.chore? = some chore) : ∃ data rest,
    workshop.exchange.loop.queue = .work (.answer data) :: rest ∧ Primary.choreOf data = some chore := by
  unfold chore? at sets
  split at sets
  · rename_i data head
    obtain ⟨rest, queue⟩ := List.head?_eq_some_iff.mp head
    exact ⟨data, rest, queue, sets⟩
  · cases sets

/-- Unless it leaves a chore to a worker, a move is one of the exchange. -/
theorem after_move (crew : Crew σ ε τ) (workshop : Workshop σ ε τ) {move : Move σ}
    (free : move = .job → workshop.chore? = none) :
    workshop.after crew (.move move) = ⟨workshop.exchange.after crew.toAuthority move, workshop.workers⟩ := by
  cases move with
  | job => simp only [after, run, free rfl, Exchange.after]
  | _ => rfl

theorem choreOf_of_answered {move : Move σ} (free : move = .job → workshop.chore? = none) {data : Value}
    (working : Moment.answered? ⟨workshop.exchange, move⟩ = some data) : Primary.choreOf data = none := by
  unfold Moment.answered? at working
  split at working
  · rename_i running
    cases working
    obtain ⟨job, first⟩ := Moment.job?_eq_some.mp running
    have head : workshop.exchange.loop.queue.head? = some (.work (.answer data)) := first
    simpa only [chore?, head] using free job
  · cases working

theorem goes (crew : Crew σ ε τ) (workshop : Workshop σ ε τ) (step : Step σ) :
    Goes crew workshop step (workshop.after crew step) := by
  cases step with
  | move move =>
    by_cases free : move = .job → workshop.chore? = none
    · rw [after_move crew workshop free]
      exact .moved fun data working => choreOf_of_answered free working
    · obtain ⟨rfl, busy⟩ := Classical.not_imp.mp free
      obtain ⟨chore, sets⟩ := Option.ne_none_iff_exists'.mp busy
      obtain ⟨data, rest, queue, own⟩ := chore?_eq_some sets
      simp only [after, run, sets, hire, queue, List.tail_cons]
      exact .hired queue own
  | work place =>
    simp only [after, work]
    split
    · rename_i stage found
      exact .worked found rfl
    · exact .rested nofun
  | post place =>
    simp only [after, post]
    split
    · rename_i yield found
      rw [Primary.answer_reply]
      exact .posted found (by rw [← Primary.answer_reply])
    · exact .rested nofun

end Workshop

/-- A chore that is left to a worker and worked on without a break comes to a yield. -/
inductive Crew.Finishes (crew : Crew σ ε τ) : τ → σ → Yield ε × σ × List Notice → Prop
  | last {stage : τ} {source later : σ} {yield : Yield ε} {notices : List Notice} :
      crew.work stage source = (.done yield, later, notices) → Finishes crew stage source (yield, later, notices)
  | next {stage after : τ} {source between later : σ} {yield : Yield ε} {notices more : List Notice} :
      crew.work stage source = (.busy after, between, notices) →
      Finishes crew after between (yield, later, more) → Finishes crew stage source (yield, later, notices ++ more)

/-- Whether a crew does in stretches what its authority does in one go. -/
def Crew.Whole (crew : Crew σ ε τ) : Prop :=
  ∀ chore source, crew.Finishes (crew.begin chore) source (chore.perform crew.toAuthority source)

theorem Primary.answer_eq_serve (authority : Authority σ ε) (primary : Primary) (source : σ) {data : Value}
    {chore : Chore} (sets : choreOf data = some chore) :
    primary.answer authority source data = primary.serve authority source chore := by
  unfold choreOf at sets
  unfold answer
  cases read : Message.parse data with
  | error fault =>
    rw [read] at sets
    cases sets
  | ok message =>
    rw [read] at sets
    simp only [sets]

namespace Workshop

theorem take_take (exchange : Exchange σ) (middle last : Parties σ) (deeds more : List (Deed Listener Duty)) :
    (exchange.take (middle, deeds)).take (last, more) = exchange.take (last, deeds ++ more) := by
  simp only [Assembly.take, Loop.performAll, List.foldl_append]

/-- A worker who is not interrupted finishes. -/
theorem works_of_finishes {stage : τ} {source later : σ} {yield : Yield ε} {notices : List Notice}
    (finishes : crew.Finishes stage source (yield, later, notices)) (exchange : Exchange σ)
    (workers : List (Worker ε τ)) (own : exchange.state.source = source) :
    ∃ count, afterAll crew ⟨exchange, workers ++ [.busy stage]⟩ (List.replicate count (.work workers.length)) =
      ⟨exchange.take ({ exchange.state with source := later }, notices.map .note), workers ++ [.done yield]⟩ := by
  generalize result : (yield, later, notices) = outcome at finishes
  induction finishes generalizing exchange notices with
  | @last stage source final reached noted worked =>
    cases result
    refine ⟨1, ?_⟩
    simp [afterAll, after, work, own, worked]
  | @next stage further source between final reached noted more worked rest ih =>
    cases result
    obtain ⟨count, same⟩ := ih (exchange.take ({ exchange.state with source := between }, noted.map .note)) rfl rfl
    refine ⟨count + 1, ?_⟩
    have one : after crew ⟨exchange, workers ++ [.busy stage]⟩ (.work workers.length) =
        ⟨exchange.take ({ exchange.state with source := between }, noted.map .note), workers ++ [.busy further]⟩ := by
      simp [after, work, own, worked]
    rw [List.replicate_succ, afterAll, List.foldl_cons, one]
    rw [afterAll] at same
    rw [same, take_take, ← List.map_append]
    rfl

/-- When nothing happens between the stretches, a chore comes to what the primary does in one go. -/
theorem inline (whole : crew.Whole) {workshop : Workshop σ ε τ} {chore : Chore} (sets : workshop.chore? = some chore) :
    ∃ count, workshop.afterAll crew (.move .job :: List.replicate count (.work workshop.workers.length) ++
        [.post workshop.workers.length]) =
      { workshop with exchange := workshop.exchange.after crew.toAuthority .job } := by
  obtain ⟨⟨loop, state⟩, workers⟩ := workshop
  obtain ⟨data, rest, queue, own⟩ := chore?_eq_some sets
  have hired : after crew ⟨⟨loop, state⟩, workers⟩ (.move .job) =
      ⟨⟨{ loop with queue := rest }, state⟩, workers ++ [.busy (crew.begin chore)]⟩ := by
    simp only at queue
    simp only [after, run, sets, hire, queue, List.tail_cons]
  have served := state.primary.answer_eq_serve crew.toAuthority state.source own
  simp only [Primary.serve] at served
  generalize performed : chore.perform crew.toAuthority state.source = outcome at served
  obtain ⟨yield, later, notices⟩ := outcome
  obtain ⟨count, worked⟩ := works_of_finishes (performed ▸ whole chore state.source)
    ⟨{ loop with queue := rest }, state⟩ workers rfl
  refine ⟨count, ?_⟩
  simp only [afterAll] at worked
  simp only at queue
  rw [afterAll, List.cons_append, List.foldl_cons, hired, List.foldl_append, worked, List.foldl_cons, List.foldl_nil]
  simp only [after, post, Exchange.after, Assembly.step?, queue, Option.getD_some, Assembly.run, Parties.party,
    Parties.resume, served, List.getElem?_append_right le_rfl, Nat.sub_self, List.getElem?_cons_zero]
  have left : (workers ++ [Worker.done yield]).eraseIdx workers.length = workers := by
    simp [List.eraseIdx_append_of_length_le]
  rw [left]
  -- Both sides note what the stretches note, then what the primary notes, and post.
  simp only [Assembly.take, Parties.takePrimary, Loop.performAll, List.map_append, List.append_assoc,
    List.foldl_append]

theorem exists_afterAll_move (whole : crew.Whole) (workshop : Workshop σ ε τ) (move : Move σ) :
    ∃ steps, workshop.afterAll crew steps =
      ⟨workshop.exchange.after crew.toAuthority move, workshop.workers⟩ := by
  by_cases free : move = .job → workshop.chore? = none
  · exact ⟨[.move move], after_move crew workshop free⟩
  · obtain ⟨rfl, busy⟩ := Classical.not_imp.mp free
    obtain ⟨chore, sets⟩ := Option.ne_none_iff_exists'.mp busy
    obtain ⟨count, same⟩ := inline whole sets
    exact ⟨_, same⟩

/-- Every run of an exchange is a run of its workshop, in which nothing happens while a chore is done. -/
theorem exists_afterAll_of_run (whole : crew.Whole) {allowed : Moment σ → Prop} {first exchange : Exchange σ}
    {past : List (Moment σ)} (run : Workbench.Run crew.toAuthority allowed first past exchange)
    (workers : List (Worker ε τ)) : ∃ steps, afterAll crew ⟨first, workers⟩ steps = ⟨exchange, workers⟩ := by
  induction run with
  | start => exact ⟨[], rfl⟩
  | @next past before move previous permitted ih =>
    obtain ⟨steps, reached⟩ := ih
    obtain ⟨further, moved⟩ := exists_afterAll_move whole ⟨before, workers⟩ move
    refine ⟨steps ++ further, ?_⟩
    rw [afterAll] at reached moved
    rw [afterAll, List.foldl_append, reached, moved]

end Workshop

namespace Instant

def after (crew : Crew σ ε τ) (instant : Instant σ ε τ) : Workshop σ ε τ :=
  instant.workshop.after crew instant.step

/-- What comes of an instant for a portal. -/
def reaction (instant : Instant σ ε τ) (id : String) (portal : Portal) : PortalOutcome :=
  match instant.step with
  | .move move => Moment.reaction ⟨instant.workshop.exchange, move⟩ id portal
  | .work _ | .post _ => portal.does []

/-- A portal takes over a snapshot. -/
def Adopts (instant : Instant σ ε τ) (id : String) (data : Value) : Prop :=
  ∃ move, instant.step = .move move ∧ Moment.Adopts ⟨instant.workshop.exchange, move⟩ id data

/-- A portal that is in step hears a response that carries a history. -/
def Accepts (instant : Instant σ ε τ) (id key : String) (data : Value) : Prop :=
  ∃ move, instant.step = .move move ∧ Moment.Accepts ⟨instant.workshop.exchange, move⟩ id key data

/-- The data that the primary has to post comes to be: with the snapshot that it sends by itself, or with what a
worker has from the source. -/
inductive Makes (crew : Crew σ ε τ) (instant : Instant σ ε τ) (data : Value) : Prop
  | sent {given : Option Snapshot} {snapshot : Snapshot} : instant.step = .move (.broadcast given) →
      (given = some snapshot ∨ crew.snapshot instant.workshop.exchange.state.source = .ok snapshot) →
      (Message.update snapshot).dump = .ok data → Makes crew instant data
  | worked {place : Nat} {stage : τ} {yield : Yield ε} : instant.step = .work place →
      instant.workshop.workers[place]? = some (.busy stage) →
      (crew.work stage instant.workshop.exchange.state.source).1 = .done yield → yield.answer = .ok data →
      Makes crew instant data

/-- Whether nobody but the primary posts updates and responses. -/
def Unspoken (instant : Instant σ ε τ) : Prop :=
  ∀ move, instant.step = .move move → Moment.Unspoken ⟨instant.workshop.exchange, move⟩

variable {instant : Instant σ ε τ}

/-- A portal does nothing or reacts to the stimulus of the instant. -/
theorem reaction_cases (instant : Instant σ ε τ) (id : String) (portal : Portal) :
    (∀ move, instant.step = .move move → ∀ stimulus,
        Moment.stimulus? ⟨instant.workshop.exchange, move⟩ ≠ some (id, stimulus)) ∧
      instant.reaction id portal = portal.does [] ∨
    ∃ move stimulus, instant.step = .move move ∧
      Moment.stimulus? ⟨instant.workshop.exchange, move⟩ = some (id, stimulus) ∧
      Portal.Reacts portal stimulus (instant.reaction id portal) := by
  unfold reaction
  cases taken : instant.step with
  | move move =>
    rcases Moment.reaction_cases ⟨instant.workshop.exchange, move⟩ id portal with
      ⟨still, same⟩ | ⟨stimulus, reacting, reacts⟩
    · refine Or.inl ⟨?_, same⟩
      rintro _ ⟨⟩
      exact still
    · exact Or.inr ⟨move, stimulus, rfl, reacting, reacts⟩
  | work place | post place => exact Or.inl ⟨nofun, rfl⟩

theorem get?_portals_after (crew : Crew σ ε τ) (instant : Instant σ ε τ) (id : String) :
    (instant.after crew).exchange.state.portals.get? id =
      (instant.workshop.exchange.state.portals.get? id).map fun portal => (instant.reaction id portal).portal := by
  obtain ⟨workshop, step⟩ := instant
  have idle : workshop.exchange.state.portals.get? id =
      (workshop.exchange.state.portals.get? id).map fun portal => (portal.does []).portal := by
    cases workshop.exchange.state.portals.get? id <;> rfl
  simp only [after]
  generalize gone : workshop.after crew step = next
  have goes := workshop.goes crew step
  rw [gone] at goes
  cases goes with
  | hired queue sets =>
    have unstirred : Moment.stimulus? ⟨workshop.exchange, .job⟩ = none := by
      simp only [Moment.stimulus?, queue, List.head?_cons]
    simp only [reaction, Moment.reaction, unstirred]
    exact idle
  | moved free => exact Moment.get?_portals_after crew.toAuthority ⟨workshop.exchange, _⟩ id
  | worked found done | posted found done => exact idle
  | rested still =>
    cases step with
    | move move => exact absurd rfl (still move)
    | work place | post place => exact idle

end Instant

/-- Whatever the primary has to post or has posted and is still on its way came to be at some instant. -/
structure Workshop.Owed (crew : Crew σ ε τ) (past : List (Instant σ ε τ)) (workshop : Workshop σ ε τ) : Prop where
  pending : ∀ listener data message, workshop.exchange.loop.Pending (.delivery listener data) →
    Message.parse data = .ok message → message.isAuthoritative = true → ∃ instant ∈ past, instant.Makes crew data
  held : ∀ yield data, .done yield ∈ workshop.workers → yield.answer = .ok data →
    ∃ instant ∈ past, instant.Makes crew data

/-- No message comes of what is noted. -/
theorem Loop.pending_notes {loop : Loop Listener Duty} {notices : List Notice} {job : Job Listener Duty}
    (pending : (loop.performAll (notices.map .note)).Pending job) : loop.Pending job := by
  rcases Loop.pending_performAll pending with before | ⟨deed, member, leads⟩
  · exact before
  · obtain ⟨notice, _, rfl⟩ := List.mem_map.mp member
    rcases leads with leads | leads <;> cases leads

/-- The primary has a message delivered only by posting it. -/
theorem Parties.delivery_takePrimary {parties : Parties σ} {outcome : PrimaryOutcome σ ε} {deed : Deed Listener Duty}
    (member : deed ∈ (parties.takePrimary outcome).2) {listener : Listener} {data : Value}
    (leads : deed.LeadsTo (.delivery listener data)) : outcome.answer = .ok (some data) := by
  simp only [takePrimary, List.mem_append, List.mem_map] at member
  rcases member with ⟨notice, _, rfl⟩ | member
  · rcases leads with leads | leads <;> cases leads
  · cases answered : outcome.answer with
    | error fault =>
      simp only [answered, List.mem_singleton] at member
      rw [member] at leads
      rcases leads with leads | leads <;> cases leads
    | ok posted =>
      cases posted with
      | none =>
        simp only [answered, List.mem_singleton] at member
        rw [member] at leads
        rcases leads with leads | leads <;> cases leads
      | some sent =>
        simp only [answered, List.mem_cons, List.not_mem_nil, or_false] at member
        rcases member with rfl | rfl
        · rcases leads with ⟨_, same⟩ | queued
          · cases same
            rfl
          · cases queued
        · rcases leads with leads | leads <;> cases leads

/-- A move without a chore has the primary post nothing but a snapshot that it sends by itself. -/
theorem Workshop.makes_of_posted {workshop : Workshop σ ε τ} {move : Move σ} {data : Value}
    (free : ∀ asked, Moment.answered? ⟨workshop.exchange, move⟩ = some asked → Primary.choreOf asked = none)
    (posted : Moment.posted? crew.toAuthority ⟨workshop.exchange, move⟩ = some data) :
    Instant.Makes crew ⟨workshop, .move move⟩ data := by
  unfold Moment.posted? at posted
  split at posted
  · rename_i given called
    split at posted
    · rename_i primary sent broadcasted
      cases posted
      obtain ⟨snapshot, source, dumped⟩ := Primary.broadcast_eq_ok broadcasted
      have same : move = .broadcast given := called
      exact .sent (by rw [same]) (source.imp_right And.right) dumped
    · cases posted
  · split at posted
    · cases posted
    · rename_i asked working
      split at posted
      · rename_i answer answered
        rw [posted] at answered
        have none := free asked working
        unfold Primary.choreOf at none
        rcases Primary.answer_eq_some answered with ⟨_, _, read, _⟩ | ⟨_, _, _, read, _⟩
        · rw [read] at none
          cases none
        · rw [read] at none
          cases none
      · cases posted

theorem Workshop.Goes.owed {workshop next : Workshop σ ε τ} {step : Workshop.Step σ} {past : List (Instant σ ε τ)}
    (goes : Goes crew workshop step next) (unspoken : Instant.Unspoken ⟨workshop, step⟩)
    (owed : workshop.Owed crew past) : next.Owed crew (⟨workshop, step⟩ :: past) := by
  have sooner {data : Value} : (∃ instant ∈ past, instant.Makes crew data) →
      ∃ instant ∈ (⟨workshop, step⟩ :: past : List (Instant σ ε τ)), instant.Makes crew data :=
    fun ⟨instant, member, makes⟩ => ⟨instant, List.mem_cons_of_mem _ member, makes⟩
  cases goes with
  | hired queue sets =>
    constructor
    · intro listener data message pending read authoritative
      refine sooner (owed.pending listener data message (pending.imp_left fun queued => ?_) read authoritative)
      rw [queue]
      exact List.mem_cons_of_mem _ queued
    · intro yield data member answered
      rcases List.mem_append.mp member with old | new
      · exact sooner (owed.held yield data old answered)
      · cases List.mem_singleton.mp new
  | @moved move free =>
    constructor
    · intro listener data message pending read authoritative
      have after : (Moment.after crew.toAuthority ⟨workshop.exchange, move⟩).loop.Pending (.delivery listener data) :=
        pending
      rcases Moment.pending_after after with before | ⟨deed, origin, leads⟩
      · exact sooner (owed.pending listener data message before read authoritative)
      · have posted := Moment.posted_of_origin (unspoken move rfl) origin leads read authoritative
        exact ⟨_, List.mem_cons_self, makes_of_posted free posted⟩
    · exact fun yield data member answered => sooner (owed.held yield data member answered)
  | @worked place stage worker source notices found done =>
    constructor
    · intro listener data message pending read authoritative
      exact sooner (owed.pending listener data message (Loop.pending_notes pending) read authoritative)
    · intro yield data member answered
      rcases List.mem_or_eq_of_mem_set member with old | new
      · exact sooner (owed.held yield data old answered)
      · refine ⟨_, List.mem_cons_self, .worked rfl found ?_ answered⟩
        rw [done, ← new]
  | @posted place yield primary notices found replied =>
    constructor
    · intro listener data message pending read authoritative
      rcases Loop.pending_performAll pending with before | ⟨deed, member, leads⟩
      · exact sooner (owed.pending listener data message before read authoritative)
      · obtain ⟨sent, answered, same⟩ := Except.map_eq_ok.mp (Parties.delivery_takePrimary member leads)
        cases same
        exact sooner (owed.held yield data (List.mem_of_getElem? found) answered)
    · intro other data member answered
      exact sooner (owed.held other data (List.mem_of_mem_eraseIdx member) answered)
  | rested still =>
    exact ⟨fun listener data message pending read authoritative =>
      sooner (owed.pending listener data message pending read authoritative),
      fun yield data member answered => sooner (owed.held yield data member answered)⟩

namespace Workshop

variable {first workshop : Workshop σ ε τ} {past : List (Instant σ ε τ)}

/-- Whether nothing is on its way and nobody is at work. -/
structure Idle (workshop : Workshop σ ε τ) : Prop where
  queue : workshop.exchange.loop.queue = []
  timers : workshop.exchange.loop.timers = []
  workers : workshop.workers = []

theorem owed_of_run {allowed : Instant σ ε τ → Prop} (idle : first.Idle)
    (unspoken : ∀ instant, allowed instant → instant.Unspoken) (run : Run crew allowed first past workshop) :
    workshop.Owed crew past := by
  induction run with
  | start =>
    constructor
    · rintro listener data message (queued | ⟨timer, member, _⟩)
      · rw [idle.queue] at queued
        cases queued
      · rw [idle.timers] at member
        cases member
    · intro yield data member
      rw [idle.workers] at member
      cases member
  | next step previous permitted ih => exact (goes crew _ step).owed (unspoken _ permitted) ih

/-- An update or a response that reaches a portal came to be at some instant. -/
theorem makes_of_heard {allowed : Instant σ ε τ → Prop} (idle : first.Idle)
    (unspoken : ∀ instant, allowed instant → instant.Unspoken) (run : Run crew allowed first past workshop)
    {move : Move σ} {id : String} {data : Value} {message : Message}
    (heard : Moment.stimulus? ⟨workshop.exchange, move⟩ = some (id, .hear data))
    (read : Message.parse data = .ok message) (authoritative : message.isAuthoritative = true) :
    ∃ instant ∈ past, instant.Makes crew data := by
  rcases Moment.stimulus?_eq_some heard with ⟨_, _, same⟩ | ⟨_, running, _, same⟩ | ⟨_, same⟩ | ⟨_, _, same⟩
  · cases same
  · cases same
    have queued := List.mem_of_head? (Moment.job?_eq_some.mp running).2
    exact (owed_of_run idle unspoken run).pending _ data message (Or.inl queued) read authoritative
  · cases same
  · cases same

end Workshop

end Workbench
