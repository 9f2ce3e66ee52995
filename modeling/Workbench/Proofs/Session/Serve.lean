import Workbench.Proofs.Session.Operation
import Workbench.Proofs.Sync.Primary
import Workbench.Session.Authority

namespace Workbench.Session

/-- Whether a session changes from outside by operations only. The primary and its portals, and whoever
posts on their channel, do as they like. -/
def Operates (moment : Moment Session) : Prop :=
  ∀ session, moment.move = .change session →
    ∃ operation, session = moment.exchange.state.source.after operation

/-- An action that a portal asks for is a monologue, whatever is sent along. -/
theorem source_act (session : Session) (portal payload : String) :
    (authority.act portal payload session).2.1 = session.after (.monologue portal) := by
  simp only [authority, after]
  generalize session.monologue portal = spoken
  obtain ⟨outcome, next, notices⟩ := spoken
  cases outcome <;> rfl

/-- A moment without an operation leaves the session as it is, but for the monologue of the portal that is
served. -/
theorem source_served {moment : Moment Session} (unchanged : ∀ session, moment.move ≠ .change session) :
    (moment.after authority).state.source =
      match moment.served? with
      | some (portal, _) => moment.exchange.state.source.after (.monologue portal)
      | none => moment.exchange.state.source := by
  rw [Moment.source_served authority moment unchanged]
  cases moment.served? with
  | none => rfl
  | some request => exact source_act ..

/-- Every moment is an operation on the session. -/
theorem source_operates {moment : Moment Session} (operates : Operates moment) :
    ∃ operation, (moment.after authority).state.source = moment.exchange.state.source.after operation := by
  by_cases changed : ∃ session, moment.move = .change session
  · obtain ⟨session, move⟩ := changed
    obtain ⟨operation, same⟩ := operates session move
    refine ⟨operation, ?_⟩
    rw [Moment.source_after, move, ← same]
  · have unchanged : ∀ session, moment.move ≠ .change session := fun session move => changed ⟨session, move⟩
    rw [source_served unchanged]
    cases moment.served? with
    | none => exact ⟨.snapshot, rfl⟩
    | some request => exact ⟨.monologue request.1, rfl⟩

/-- A session without files and without a model. -/
def bare : Session :=
  ⟨[], ⟨none, ⟨[]⟩⟩, ⟨none, [], .null⟩, [], historyKeys.map fun key => (key, []), [], [], "", "09:00"⟩

end Workbench.Session
