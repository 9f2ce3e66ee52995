import Workbench.Proofs.Fields
import Workbench.Proofs.Sync.Loop
import Workbench.Proofs.Sync.Portal
import Workbench.Sync.Exchange

namespace Workbench

/-- What happens at an exchange: its source becomes another one, a portal is called, data is posted on the
channel, the primary sends a snapshot to everybody, a listener joins or leaves or all of them do, the first
job of the queue runs, and the clock is turned. -/
inductive Move (σ : Type) where
  | change (source : σ)
  | call (id : String) (call : Portal.Call)
  | post (data : Value) (sender : Option Listener)
  | broadcast (given : Option Snapshot)
  | join (listener : Listener)
  | leave (listener : Listener)
  | clear
  | job
  | turn (time : Rat)

/-- A move and the exchange just before it. -/
structure Moment (σ : Type) where
  exchange : Exchange σ
  move : Move σ

variable {σ ε : Type}

/-- The exchange after a move. What cannot be posted changes nothing. -/
def Exchange.after (authority : Authority σ ε) (exchange : Exchange σ) : Move σ → Exchange σ
  | .change source => { exchange with state := { exchange.state with source := source } }
  | .call id call => (exchange.call id fun portal => portal.obey call).1
  | .post data sender => match exchange.post data sender with
    | .ok next => next
    | .error _ => exchange
  | .broadcast given => match exchange.broadcast authority given with
    | .ok next => next
    | .error _ => exchange
  | .join listener => exchange.listen listener
  | .leave listener => Exchange.leave exchange listener
  | .clear => exchange.close
  | .job => (Assembly.step? (Parties.party authority) exchange).getD exchange
  | .turn time => { exchange with loop := exchange.loop.turnTo time }

/-- The exchanges that come of one by moves of some kind, each with the moments that led to it, the latest
first. -/
inductive Run (authority : Authority σ ε) (allowed : Moment σ → Prop) (first : Exchange σ) :
    List (Moment σ) → Exchange σ → Prop
  | start : Run authority allowed first [] first
  | next {past exchange} (move : Move σ) : Run authority allowed first past exchange →
      allowed ⟨exchange, move⟩ →
      Run authority allowed first (⟨exchange, move⟩ :: past) (exchange.after authority move)

/-- What holds at the beginning and is kept by every move holds throughout. -/
theorem Run.invariant {authority : Authority σ ε} {allowed : Moment σ → Prop} {first exchange : Exchange σ}
    {past : List (Moment σ)} (run : Run authority allowed first past exchange) (holds : Exchange σ → Prop)
    (atFirst : holds first)
    (kept : ∀ moment, allowed moment → holds moment.exchange → holds (moment.exchange.after authority moment.move)) :
    holds exchange := by
  induction run with
  | start => exact atFirst
  | next move previous permitted ih => exact kept _ permitted ih

/-- The moments of moves and the exchange that they lead to, both with the latest first. -/
def Exchange.trace (authority : Authority σ ε) (first : Exchange σ) : List (Move σ) → List (Moment σ) × Exchange σ
  | [] => ([], first)
  | move :: earlier =>
    let (past, exchange) := trace authority first earlier
    (⟨exchange, move⟩ :: past, exchange.after authority move)

theorem Run.of_trace {authority : Authority σ ε} {allowed : Moment σ → Prop} {first : Exchange σ}
    {moves : List (Move σ)} (permitted : ∀ moment ∈ (first.trace authority moves).1, allowed moment) :
    Run authority allowed first (first.trace authority moves).1 (first.trace authority moves).2 := by
  induction moves with
  | nil => exact .start
  | cons move earlier ih =>
    have before := ih fun moment member => permitted moment (List.mem_cons_of_mem _ member)
    exact .next move before (permitted _ List.mem_cons_self)

namespace Moment

def after (authority : Authority σ ε) (moment : Moment σ) : Exchange σ :=
  moment.exchange.after authority moment.move

/-- The job that runs. -/
def job? (moment : Moment σ) : Option (Job Listener Duty) :=
  match moment.move with
  | .job => moment.exchange.loop.queue.head?
  | _ => none

/-- The portal that has something to react to, and what that is. -/
def stimulus? (moment : Moment σ) : Option (String × Portal.Stimulus) :=
  match moment.move with
  | .call id call => some (id, .call call)
  | .job => match moment.exchange.loop.queue.head? with
    | some (.delivery (.portal id) data) =>
      if .portal id ∈ moment.exchange.loop.listeners then some (id, .hear data) else none
    | some (.work (.shake id)) => some (id, .shake moment.exchange.loop.now)
    | some (.work (.expire id action)) => some (id, .expire action)
    | _ => none
  | _ => none

/-- The data that the primary works on. -/
def answered? (moment : Moment σ) : Option Value :=
  match moment.job? with
  | some (.work (.answer data)) => some data
  | _ => none

/-- The data that the primary posts. -/
def posted? (authority : Authority σ ε) (moment : Moment σ) : Option Value :=
  match moment.move with
  | .broadcast given =>
    match moment.exchange.state.primary.broadcast authority moment.exchange.state.source given with
    | .ok (_, data) => some data
    | .error _ => none
  | _ => match moment.answered? with
    | none => none
    | some data =>
      match (moment.exchange.state.primary.answer authority moment.exchange.state.source data).answer with
      | .ok answer => answer
      | .error _ => none

/-- What is done on the loop, after the job that runs has been taken from the queue. -/
def deeds (authority : Authority σ ε) (moment : Moment σ) : List (Deed Listener Duty) :=
  match moment.move with
  | .change _ | .clear | .turn _ => []
  | .call id call => match moment.exchange.state.portals.get? id with
    | none => []
    | some portal => (portal.obey call).deeds.flatMap (PortalDeed.toLoop id)
  | .post data sender => if Json.encodable data then [.post data sender] else []
  | .broadcast given =>
    match moment.exchange.state.primary.broadcast authority moment.exchange.state.source given with
    | .ok (_, data) => [.post data (some .primary)]
    | .error _ => []
  | .join listener => [.subscribe listener]
  | .leave listener => [.unsubscribe listener]
  | .job => match moment.exchange.loop.queue.head? with
    | none => []
    | some (.delivery listener data) =>
      if listener ∈ moment.exchange.loop.listeners then (moment.exchange.state.hear data listener).2 else []
    | some (.work duty) => (moment.exchange.state.resume authority moment.exchange.loop.now duty).2
    | some (.rouse duty) => [.proceed duty]
    | some (.ended failed) => if failed then [.fail] else []

/-- The loop without the job that runs, after the listeners have left or the clock has been turned. -/
def ground (moment : Moment σ) : Loop Listener Duty :=
  match moment.move with
  | .clear => moment.exchange.loop.close
  | .turn time => moment.exchange.loop.turnTo time
  | .job =>
    let left := { moment.exchange.loop with queue := moment.exchange.loop.queue.tail }
    match moment.exchange.loop.queue.head? with
    | some (.ended _) => { left with tasks := left.tasks - 1 }
    | _ => left
  | _ => moment.exchange.loop

/-- What a move does to the loop, to the portals and to the source. -/
theorem after_parts (authority : Authority σ ε) (moment : Moment σ) :
    (moment.after authority).loop = moment.ground.performAll (moment.deeds authority) ∧
      (moment.after authority).state.portals =
        (match moment.stimulus? with
          | none => moment.exchange.state.portals
          | some (id, stimulus) => match moment.exchange.state.portals.get? id with
            | none => moment.exchange.state.portals
            | some portal => moment.exchange.state.portals.update id (portal.react stimulus).portal) ∧
      (moment.after authority).state.source =
        match moment.move with
        | .change source => source
        | _ => match moment.answered? with
          | none => moment.exchange.state.source
          | some data =>
            (moment.exchange.state.primary.answer authority moment.exchange.state.source data).source := by
  obtain ⟨⟨loop, state⟩, move⟩ := moment
  cases move with
  | change source | join listener | leave listener | clear | turn time => exact ⟨rfl, rfl, rfl⟩
  | call id call =>
    simp only [after, Exchange.after, Exchange.call, deeds, ground, stimulus?, answered?, job?]
    cases state.portals.get? id <;> exact ⟨rfl, rfl, rfl⟩
  | post data sender =>
    simp only [after, Exchange.after, Exchange.post, Loop.post, deeds, ground, stimulus?, answered?, job?]
    cases blocked : Json.obstacle? data <;> simp only [Json.encodable, blocked] <;> exact ⟨rfl, rfl, rfl⟩
  | broadcast given =>
    simp only [after, Exchange.after, Exchange.broadcast, deeds, ground, stimulus?, answered?, job?]
    cases state.primary.broadcast authority state.source given <;> exact ⟨rfl, rfl, rfl⟩
  | job =>
    obtain ⟨name, listeners, posted, tasks, queue, now, timers, notices⟩ := loop
    simp only [after, Exchange.after, Assembly.step?, deeds, ground, stimulus?, answered?, job?]
    cases queue with
    | nil => exact ⟨rfl, rfl, rfl⟩
    | cons job rest =>
      cases job with
      | delivery listener data =>
        simp only [List.head?_cons, List.tail_cons, Option.getD_some, Assembly.run]
        by_cases listening : listener ∈ listeners
        · rw [if_pos listening, if_pos listening]
          cases listener with
          | observer | primary => exact ⟨rfl, rfl, rfl⟩
          | portal id =>
            simp only [if_pos listening, Assembly.take, Parties.party, Parties.hear]
            cases state.portals.get? id <;> exact ⟨trivial, rfl, rfl⟩
        · rw [if_neg listening, if_neg listening]
          cases listener with
          | observer | primary => exact ⟨rfl, rfl, rfl⟩
          | portal id =>
            simp only [if_neg listening]
            exact ⟨rfl, trivial, trivial⟩
      | work duty =>
        cases duty with
        | answer data => exact ⟨rfl, rfl, rfl⟩
        | shake id | expire id action =>
          simp only [List.head?_cons, List.tail_cons, Option.getD_some, Assembly.run, Assembly.take, Parties.party,
            Parties.resume]
          cases state.portals.get? id <;> exact ⟨trivial, rfl, rfl⟩
      | rouse duty => exact ⟨rfl, rfl, rfl⟩
      | ended failed => cases failed <;> exact ⟨rfl, rfl, rfl⟩

theorem loop_after (authority : Authority σ ε) (moment : Moment σ) :
    (moment.after authority).loop = moment.ground.performAll (moment.deeds authority) :=
  (moment.after_parts authority).1

theorem portals_after (authority : Authority σ ε) (moment : Moment σ) :
    (moment.after authority).state.portals =
      match moment.stimulus? with
      | none => moment.exchange.state.portals
      | some (id, stimulus) => match moment.exchange.state.portals.get? id with
        | none => moment.exchange.state.portals
        | some portal => moment.exchange.state.portals.update id (portal.react stimulus).portal :=
  (moment.after_parts authority).2.1

theorem source_after (authority : Authority σ ε) (moment : Moment σ) :
    (moment.after authority).state.source =
      match moment.move with
      | .change source => source
      | _ => match moment.answered? with
        | none => moment.exchange.state.source
        | some data =>
          (moment.exchange.state.primary.answer authority moment.exchange.state.source data).source :=
  (moment.after_parts authority).2.2

end Moment

end Workbench
