import Workbench.Sync.Exchange

namespace Workbench

/-- Somebody at a chore: busy with a stage of it, or done. -/
inductive Worker (ε τ : Type) where
  | busy (stage : τ)
  | done (yield : Yield ε)

/-- How the chores of a primary are done apart from its loop. A chore goes through stages, one stretch of work
each, and a stretch has the source to itself; between two of them the source may change. Done in one go, a chore
comes to what the authority says. -/
structure Crew (σ ε τ : Type) extends Authority σ ε where
  begin : Chore → τ
  work : τ → σ → Worker ε τ × σ × List Notice

/-- An exchange whose primary leaves its chores to workers, and those who have not been heard of yet. -/
structure Workshop (σ ε τ : Type) where
  exchange : Exchange σ
  workers : List (Worker ε τ)

/-- The chore that data sets the primary. -/
def Primary.choreOf (data : Value) : Option Chore :=
  match Message.parse data with
  | .error _ => none
  | .ok message => chore? message

namespace Workshop

variable {σ ε τ : Type}

/-- The chore that the first job of the queue sets the primary. -/
def chore? (workshop : Workshop σ ε τ) : Option Chore :=
  match workshop.exchange.loop.queue.head? with
  | some (.work (.answer data)) => Primary.choreOf data
  | _ => none

/-- Take the first job from the queue and leave its chore to a worker. -/
def hire (crew : Crew σ ε τ) (workshop : Workshop σ ε τ) (chore : Chore) : Workshop σ ε τ :=
  let loop := workshop.exchange.loop
  { exchange := { workshop.exchange with loop := { loop with queue := loop.queue.tail } }
    workers := workshop.workers ++ [.busy (crew.begin chore)] }

/-- Run the first job of the queue, or leave it to a worker if it is a chore. -/
def run (crew : Crew σ ε τ) (workshop : Workshop σ ε τ) : Workshop σ ε τ :=
  match workshop.chore? with
  | some chore => workshop.hire crew chore
  | none =>
    let party := Parties.party crew.toAuthority
    { workshop with exchange := (Assembly.step? party workshop.exchange).getD workshop.exchange }

/-- Let a worker do a stretch of work. -/
def work (crew : Crew σ ε τ) (workshop : Workshop σ ε τ) (place : Nat) : Workshop σ ε τ :=
  match workshop.workers[place]? with
  | some (.busy stage) =>
    let state := workshop.exchange.state
    let (worker, source, notices) := crew.work stage state.source
    { exchange := workshop.exchange.take ({ state with source := source }, notices.map .note)
      workers := workshop.workers.set place worker }
  | _ => workshop

/-- Have the primary post what a worker has come to. -/
def post (workshop : Workshop σ ε τ) (place : Nat) : Workshop σ ε τ :=
  match workshop.workers[place]? with
  | some (.done yield) =>
    let state := workshop.exchange.state
    let (primary, notices, answer) := state.primary.reply yield
    { exchange := workshop.exchange.take
        (state.takePrimary ⟨primary, state.source, notices, answer.map some⟩)
      workers := workshop.workers.eraseIdx place }
  | _ => workshop

end Workshop

end Workbench
