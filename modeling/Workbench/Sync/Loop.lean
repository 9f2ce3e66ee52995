import Workbench.Json.Printer
import Workbench.Notice

namespace Workbench

variable {σ L W : Type}

/-- A job in the queue of a loop: the delivery of a message, a stretch of somebody's work, the end of a
sleep, or the end of a task that a listener began. -/
inductive Job (L W : Type) where
  | delivery (listener : L) (data : Value)
  | work (work : W)
  | rouse (work : W)
  | ended (failed : Bool)
  deriving DecidableEq

/-- What those on a channel may ask of its loop. -/
inductive Deed (L W : Type) where
  | subscribe (listener : L)
  | unsubscribe (listener : L)
  | post (data : Value) (sender : Option L)
  | spawn (work : W)
  | proceed (work : W)
  | sleep (span : Rat) (work : W)
  | alarm (span : Rat) (work : W)
  | finish (failed : Bool)
  | fail
  | note (notice : Notice)

/-- A job that waits for its time. -/
structure Timer (L W : Type) where
  time : Rat
  job : Job L W

/-- A broadcast channel and the loop through which it delivers: one queue, first come first served, and
a clock that moves only when it is told to. Times are exact fractions of a second. -/
structure Loop (L W : Type) where
  name : String
  listeners : List L
  posted : Nat
  tasks : Nat
  queue : List (Job L W)
  now : Rat
  timers : List (Timer L W)
  notices : List Notice

namespace Loop

/-- A channel that nobody listens to. -/
def quiet (name : String) : Loop L W :=
  ⟨name, [], 0, 0, [], 0, [], []⟩

def note (loop : Loop L W) (notice : Notice) : Loop L W :=
  { loop with notices := loop.notices ++ [notice] }

def failureNotice (name : String) : Notice :=
  .error ("Listener on channel " ++ name ++ " failed")

def enqueue (loop : Loop L W) (jobs : List (Job L W)) : Loop L W :=
  { loop with queue := loop.queue ++ jobs }

/-- Let a job wait for a span of time. One that need not wait is queued at once. -/
def schedule (loop : Loop L W) (span : Rat) (job : Job L W) : Loop L W :=
  if span ≤ 0 then loop.enqueue [job]
  else { loop with timers := loop.timers ++ [⟨loop.now + span, job⟩] }

/-- Everybody leaves. What is queued stays queued. -/
def close (loop : Loop L W) : Loop L W :=
  { loop with listeners := [] }

/-- The time of the next waiting job. -/
def nextTime? (loop : Loop L W) : Option Rat :=
  (loop.timers.mergeSort fun a b => a.time ≤ b.time).head?.map Timer.time

/-- Turn the clock to a time and queue the jobs whose time has come, the earlier ones first. -/
def turnTo (loop : Loop L W) (time : Rat) : Loop L W :=
  let due := (loop.timers.filter fun timer => timer.time ≤ time).mergeSort fun a b => a.time ≤ b.time
  { loop with
    now := time
    queue := loop.queue ++ due.map Timer.job
    timers := loop.timers.filter fun timer => time < timer.time }

variable [DecidableEq L]

/-- Join the listeners. Whoever listens already does not join again. -/
def subscribe (loop : Loop L W) (listener : L) : Loop L W :=
  if listener ∈ loop.listeners then loop else { loop with listeners := loop.listeners ++ [listener] }

def unsubscribe (loop : Loop L W) (listener : L) : Loop L W :=
  { loop with listeners := loop.listeners.erase listener }

/-- Those to whom a message goes: all who listen now but its sender. -/
def recipients (loop : Loop L W) (sender : Option L) : List L :=
  loop.listeners.filter fun listener => sender ≠ some listener

/-- Queue one delivery for each recipient. The message must have a JSON form. -/
def broadcast (loop : Loop L W) (data : Value) (sender : Option L) : Loop L W :=
  { loop with
    posted := loop.posted + 1
    queue := loop.queue ++ (loop.recipients sender).map (.delivery · data) }

/-- Post a message, if it has a JSON form. -/
def post (loop : Loop L W) (data : Value) (sender : Option L) : Except Json.NotEncodable (Loop L W) :=
  match Json.obstacle? data with
  | none => .ok (loop.broadcast data sender)
  | some obstacle => .error ⟨obstacle⟩

/-- Do one deed. Work that sleeps is roused when its time has come and then queues behind all else;
an alarm is queued itself. -/
def perform (loop : Loop L W) : Deed L W → Loop L W
  | .subscribe listener => loop.subscribe listener
  | .unsubscribe listener => loop.unsubscribe listener
  | .post data sender => loop.broadcast data sender
  | .spawn work => { loop.enqueue [.work work] with tasks := loop.tasks + 1 }
  | .proceed work => loop.enqueue [.work work]
  | .sleep span work => loop.schedule span (if span ≤ 0 then .work work else .rouse work)
  | .alarm span work => loop.schedule span (.work work)
  | .finish failed => loop.enqueue [.ended failed]
  | .fail => loop.note (failureNotice loop.name)
  | .note notice => loop.note notice

def performAll (loop : Loop L W) (deeds : List (Deed L W)) : Loop L W :=
  deeds.foldl perform loop

end Loop

/-- Those on a channel: how they hear a message and how they go on with work, given the time. -/
structure Party (σ L W : Type) where
  hear : Rat → L → Value → σ → σ × List (Deed L W)
  resume : Rat → W → σ → σ × List (Deed L W)

/-- A loop and the state of those on its channel. -/
structure Assembly (σ L W : Type) where
  loop : Loop L W
  state : σ

namespace Assembly

variable [DecidableEq L]

/-- Take over what came of an action. -/
def take (assembly : Assembly σ L W) (outcome : σ × List (Deed L W)) : Assembly σ L W :=
  ⟨assembly.loop.performAll outcome.2, outcome.1⟩

/-- Run one job. A message reaches only those who still listen. -/
def run (party : Party σ L W) (assembly : Assembly σ L W) : Job L W → Assembly σ L W
  | .delivery listener data =>
    if listener ∈ assembly.loop.listeners then
      assembly.take (party.hear assembly.loop.now listener data assembly.state)
    else assembly
  | .work work => assembly.take (party.resume assembly.loop.now work assembly.state)
  | .rouse work => assembly.take (assembly.state, [.proceed work])
  | .ended failed =>
    let assembly := { assembly with loop := { assembly.loop with tasks := assembly.loop.tasks - 1 } }
    if failed then assembly.take (assembly.state, [.fail]) else assembly

/-- Run the first job of the queue. -/
def step? (party : Party σ L W) (assembly : Assembly σ L W) : Option (Assembly σ L W) :=
  match assembly.loop.queue with
  | [] => none
  | job :: rest => some (run party { assembly with loop := { assembly.loop with queue := rest } } job)

/-- Run at most `fuel` jobs, until the queue is empty. -/
def runFor (party : Party σ L W) : Nat → Assembly σ L W → Assembly σ L W
  | 0, assembly => assembly
  | fuel + 1, assembly =>
    match assembly.step? party with
    | none => assembly
    | some next => runFor party fuel next

/-- A bound on the jobs of one settling and on the times of one advance. -/
def limit : Nat := 1000000

/-- Run all that can run without the clock moving. -/
def settle (party : Party σ L W) (assembly : Assembly σ L W) : Assembly σ L W :=
  assembly.runFor party limit

/-- Let at most `fuel` times come, one after another, up to a last one, and settle at each. -/
def advanceFor (party : Party σ L W) (last : Rat) : Nat → Assembly σ L W → Assembly σ L W
  | 0, assembly => assembly
  | fuel + 1, assembly =>
    match assembly.loop.nextTime? with
    | none => assembly
    | some time =>
      if time ≤ last then
        advanceFor party last fuel (settle party { assembly with loop := assembly.loop.turnTo time })
      else assembly

/-- Let a span of time pass. -/
def advance (party : Party σ L W) (span : Rat) (assembly : Assembly σ L W) : Assembly σ L W :=
  let last := assembly.loop.now + span
  let assembly := (assembly.settle party).advanceFor party last limit
  { assembly with loop := assembly.loop.turnTo last }

end Assembly

end Workbench
