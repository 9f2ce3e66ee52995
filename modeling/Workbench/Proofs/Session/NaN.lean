import Workbench.Proofs.Kernel.NaN
import Workbench.Proofs.Session.Turn

namespace Workbench.Session

variable {session : Session}

/-- Whether an operation brings what is not a number into a metric. Only a line for the kernel can. -/
def Admits (session : Session) : Operation → String → Prop
  | .command input operator, key =>
    let line := Text.strip (input.getD "")
    session.kernel.Admits session.sources (Text.strip line) session.state
      (((session.asked line).history "kernel").map ChatEntry.toValue) operator key
  | _, _ => False

theorem state_of_quiet (session : Session) {operation : Operation}
    (quiet : ∀ input operator, operation ≠ .command input operator) : (session.after operation).state = session.state := by
  cases operation with
  | command input operator => exact absurd rfl (quiet input operator)
  | shell input => rcases session.shell_cases input with same | ⟨_, _, same⟩ <;> rw [same]
  | monologue portal =>
    rcases session.monologue_cases portal with ⟨_, same⟩ | ⟨_, _, _, _, same⟩
    · simp only [after, same]
    · simp only [after, same, say, record]
  | snapshot | tree | drain | lend _ | clock _ => rfl

theorem holdsNaN_command (clean : session.state.Clean) (input : Option String) (operator key : String) :
    (session.after (.command input operator)).state.HoldsNaN key ↔ session.Admits (.command input operator) key := by
  have leaves : Kernel.Leaves (session.turnOn (Text.strip (input.getD "")) operator).outcome key ↔
      session.Admits (.command input operator) key := Kernel.leaves_execute clean _ key
  rw [← leaves, Kernel.Leaves]
  cases ran : (session.turnOn (Text.strip (input.getD "")) operator).outcome with
  | error fault =>
    rw [(keeps_of_fault ran).1]
    simp [clean key]
  | ok turn =>
    rw [(taken_of_turn rfl ran).1]
    simp

/-- From a state in which every number is one, an operation leaves what is not a number just where it brings it. -/
theorem holdsNaN_after (clean : session.state.Clean) (operation : Operation) (key : String) :
    (session.after operation).state.HoldsNaN key ↔ session.Admits operation key := by
  cases operation with
  | command input operator => exact holdsNaN_command clean input operator key
  | _ =>
    rw [state_of_quiet session (by simp)]
    simp [Admits, clean key]

/-- Every number of a session remains one, whatever happens to the session, just as long as no line brings what is
not a number into a metric. -/
theorem clean_iff_unadmitted (clean : session.state.Clean) (operations : List Operation) :
    (∀ earlier, earlier <+: operations → (session.afterAll earlier).state.Clean) ↔
      ∀ earlier operation key, earlier ++ [operation] <+: operations →
        ¬ (session.afterAll earlier).Admits operation key := by
  constructor
  · intro always earlier operation key passed admits
    have before : (session.afterAll earlier).state.Clean := always earlier ((List.prefix_append _ _).trans passed)
    have since : (session.afterAll (earlier ++ [operation])).state.Clean := always _ passed
    rw [afterAll_concat] at since
    exact since key ((holdsNaN_after before operation key).mpr admits)
  · intro unadmitted earlier
    induction earlier using List.reverseRecOn with
    | nil => exact fun _ => clean
    | append_singleton earlier operation ih =>
      intro passed key holds
      have before : (session.afterAll earlier).state.Clean := ih ((List.prefix_append _ _).trans passed)
      rw [afterAll_concat] at holds
      exact unadmitted earlier operation key passed ((holdsNaN_after before operation key).mp holds)

theorem clean_strained : strainedSession.state.Clean := by
  have zero : (0.0 : Float).isNaN = false := by decide +kernel
  rintro key ⟨value, found, lost⟩
  have only : Fields.get? strainedSession.state key = if "chaotic_entropy" = key then some (.float 0.0) else none := rfl
  rw [only] at found
  by_cases same : "chaotic_entropy" = key
  · rw [if_pos same] at found
    cases found
    cases zero.symm.trans lost
  · rw [if_neg same] at found
    cases found

/-- A session without a model. -/
def muteSession : Session := { strainedSession with sources := ⟨none, ⟨[]⟩⟩ }

theorem clean_iff_unadmitted_mute :
    muteSession.state.Clean ∧ ∀ earlier, earlier <+: [Operation.command (some "hello") "Send"] →
      (muteSession.afterAll earlier).state.Clean := by
  have scaled : muteSession.kernel.entropyRange.1.isNaN = false := by decide +kernel
  have clean : muteSession.state.Clean := clean_strained
  refine ⟨clean, (clean_iff_unadmitted clean _).mpr ?_⟩
  intro earlier operation key passed admits
  have alone : earlier = [] ∧ operation = .command (some "hello") "Send" := by
    cases earlier with
    | nil => exact ⟨rfl, by simpa using passed⟩
    | cons first rest => simp at passed
  obtain ⟨rfl, rfl⟩ := alone
  cases admits with
  | proposed _ made => cases made
  | unscaled _ _ unscaled => cases scaled.symm.trans unscaled.1
  | cancelled _ resolved => cases resolved

/-- A proposal of what is not a number. -/
def lostProposal : List Char :=
  "\x7b\"narrative\":\"ok\",\"newState\":\x7b\"chaotic_entropy\":NaN\x7d\x7d".toList

/-- A model that makes this proposal. -/
def lostNarrator : Narrator := ⟨"m", 1, [.output (Narrator.spoken lostProposal)], []⟩

def lostSession : Session := { strainedSession with sources := ⟨some lostNarrator, ⟨[]⟩⟩ }

theorem proposalOf_lost :
    ∃ proposal, Narrator.proposalOf (String.ofList lostProposal) = .ok proposal ∧
      proposal.newState = [("chaotic_entropy", .float Float.nan)] := by
  have read : (Json.document lostProposal).toOption = some (.object [
      ("narrative", .text "ok"), ("newState", .object [("chaotic_entropy", .float Float.nan)])]) := by
    decide +kernel
  exact ⟨_, Narrator.proposalOf_of_document read rfl (by decide) rfl, rfl⟩

/-- A session takes over what the model says of a metric, even if it is not a number. -/
theorem proposed_nan_enters :
    start strainedStore ⟨some lostNarrator, ⟨[]⟩⟩ "09:00" = .ok (lostSession, [noCatalogNotice]) ∧
      lostSession.state.Clean ∧
      (lostSession.after (.command (some "hello") "Send")).state.HoldsNaN "chaotic_entropy" := by
  refine ⟨start_strained _, clean_strained, ?_⟩
  have script : lostNarrator.replies = .output (Narrator.spoken lostProposal) :: [] := rfl
  have told : Narrator.outputText (Narrator.spoken lostProposal) = .ok (String.ofList lostProposal) :=
    Narrator.outputText_spoken (by decide +kernel)
  obtain ⟨proposal, read, proposed⟩ := proposalOf_lost
  obtain ⟨turn, later, adopted, _, step⟩ := turnOn_strained_of_proposal script told read
  have ran : (lostSession.turnOn "hello" "Send").outcome = .ok turn := congrArg KernelStep.outcome step
  have nan : Float.nan.isNaN = true := by decide +kernel
  rw [(taken_of_turn strip_hello ran).1, adopted, proposed]
  exact ⟨.float Float.nan, rfl, nan⟩

end Workbench.Session
