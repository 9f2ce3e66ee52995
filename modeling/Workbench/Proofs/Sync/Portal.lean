import Mathlib
import Workbench.Sync.Portal

namespace Workbench

/-- What someone who holds a portal may call. -/
inductive Portal.Call where
  | start
  | close
  | resync
  | act (payload : Value)
  | post (message : Message)

/-- Everything a portal reacts to: a call, a message, its turn to announce itself, and the end of the time
that it gives an action. -/
inductive Portal.Stimulus where
  | call (call : Portal.Call)
  | hear (data : Value)
  | shake (now : Rat)
  | expire (action : Nat)

namespace Portal

def obey (portal : Portal) : Call → PortalOutcome
  | .start => portal.start
  | .close => portal.close
  | .resync => portal.requestResync
  | .act payload => portal.act payload
  | .post message => portal.post message

def react (portal : Portal) : Stimulus → PortalOutcome
  | .call call => portal.obey call
  | .hear data => portal.hear data
  | .shake now => portal.shake now
  | .expire action => portal.expire action

/-- The copy of a portal after the histories that it shows have been taken over. -/
def merged (portal : Portal) (histories : Fields (List (Fields Value))) : Option Snapshot :=
  portal.snapshot.map fun snapshot => { snapshot with
    histories := snapshot.histories.putAll (histories.filter fun history => portal.historyKeys.contains history.1) }

/-- The drawings of the histories that a portal shows. -/
def drawn (portal : Portal) (histories : Fields (List (Fields Value))) : List PortalDeed :=
  (histories.filter fun history => portal.historyKeys.contains history.1).map fun history =>
    .draw (.history history.1 history.2)

/-- What a portal says when it leaves, if it has ever begun. -/
def farewell (portal : Portal) : List PortalDeed :=
  if portal.phase = .initial then [] else [.send (.closing (some portal.name))]

/-- Whether a portal waits for a snapshot: for its first one, or for one that it has asked for. -/
def wants (portal : Portal) : Bool :=
  portal.phase = .handshaking || (portal.phase = .synced && portal.resync)

/-- Whether an answer to an action is for a portal. -/
def isServed (portal : Portal) (addressee : Option String) : Bool :=
  portal.awaiting && (addressee = none || addressee = some portal.name)

/-- Whether a portal that listens passes over an envelope. -/
def passes (portal : Portal) : Message → Bool
  | .update _ => !portal.wants
  | .response .. => portal.phase ≠ .synced
  | .ready _ | .request .. | .closing _ => true

/-- How a portal reacts to each stimulus, one case for each course that a call or a message can take. -/
inductive Reacts (portal : Portal) : Stimulus → PortalOutcome → Prop
  | alreadyStarted : portal.phase ≠ .initial →
      Reacts portal (.call .start) (portal.refuses (.alreadyStarted portal.tag portal.phase))
  | started : portal.phase = .initial →
      Reacts portal (.call .start)
        ({ portal with phase := .handshaking, started := true, shaking := true }.does [.join, .shake])
  | closedAgain : portal.phase = .closed → Reacts portal (.call .close) (portal.does [])
  | closed : portal.phase ≠ .closed →
      Reacts portal (.call .close) ({ portal with phase := .closed, shaking := false, alarm := none }.does
        (portal.farewell ++ [PortalDeed.leave]))
  | cannotResync : portal.phase ≠ .synced →
      Reacts portal (.call .resync) (portal.refuses (.cannotResync portal.tag portal.phase))
  | resynced : portal.phase = .synced →
      Reacts portal (.call .resync) ({ portal with resync := true }.does [portal.ready])
  | posted (message : Message) (data : Value) : message.dump = .ok data →
      Reacts portal (.call (.post message)) (portal.does [.send message])
  | undecodable (message : Message) (fault : Text.DecodeFault) : message.dump = .error fault →
      Reacts portal (.call (.post message)) (portal.refuses (.undecodable fault))
  | cannotAct (payload : Value) : portal.phase ≠ .synced →
      Reacts portal (.call (.act payload)) (portal.refuses (.cannotAct portal.tag portal.phase))
  | alreadyAwaiting (payload : Value) : portal.phase = .synced → portal.awaiting = true →
      Reacts portal (.call (.act payload)) (portal.refuses (.alreadyAwaiting portal.tag))
  | badPayload (payload : Value) (found failures : List Failure) : portal.phase = .synced →
      portal.awaiting = false → Schema.text payload = .invalid found →
      Reacts portal (.call (.act payload))
        ⟨{ portal with awaiting := true, answered := false }, [.draw (.input false)], some (.badPayload failures)⟩
  | asked (payload : Value) (text : String) : portal.phase = .synced → portal.awaiting = false →
      portal.patience.action = none → Schema.text payload = .valid text →
      Reacts portal (.call (.act payload))
        ({ portal with awaiting := true, answered := false, actions := portal.actions + 1 }.does
          [.draw (.input false), .send (.request text (some portal.name))])
  | askedFor (payload : Value) (text : String) (span : Rat) : portal.phase = .synced → portal.awaiting = false →
      portal.patience.action = some span → Schema.text payload = .valid text →
      Reacts portal (.call (.act payload))
        ({ portal with
            awaiting := true, answered := false, actions := portal.actions + 1, alarm := some (portal.actions + 1) }.does
          [.draw (.input false), .send (.request text (some portal.name)), .alarm span (portal.actions + 1)])
  | deaf (data : Value) : portal.phase = .closed ∨ portal.phase = .failed →
      Reacts portal (.hear data) (portal.does [])
  | dropped (data : Value) (fault : MessageFault) : portal.phase ≠ .closed → portal.phase ≠ .failed →
      Message.parse data = .error fault →
      Reacts portal (.hear data) (portal.does [.note (.warning (portal.tag ++ " dropped message: " ++ fault.message))])
  | passed (data : Value) (message : Message) : portal.phase ≠ .closed → portal.phase ≠ .failed →
      Message.parse data = .ok message → portal.passes message = true →
      Reacts portal (.hear data) (portal.does [])
  | adopted (data : Value) (update snapshot : Snapshot) : portal.wants = true →
      Message.parse data = .ok (.update update) → update.plain = .ok snapshot →
      Reacts portal (.hear data) ({ portal with
          shaking := false, resync := false, snapshot := some snapshot, phase := .synced, settled := true }.does
        [.draw (.all snapshot)])
  | unreadable (data : Value) (update : Snapshot) (fault : Text.DecodeFault) : portal.wants = true →
      Message.parse data = .ok (.update update) → update.plain = .error fault →
      Reacts portal (.hear data)
        ({ portal with shaking := false, resync := false }.refuses (.undecodable fault))
  | received (data : Value) (histories : Fields (List (Fields Value))) (addressee : Option String) :
      portal.phase = .synced → Message.parse data = .ok (.response histories addressee) →
      portal.isServed addressee = false →
      Reacts portal (.hear data) ({ portal with snapshot := portal.merged histories }.does (portal.drawn histories))
  | served (data : Value) (histories : Fields (List (Fields Value))) (addressee : Option String) :
      portal.phase = .synced → Message.parse data = .ok (.response histories addressee) →
      portal.isServed addressee = true →
      Reacts portal (.hear data) ({ portal with
          snapshot := portal.merged histories, awaiting := false, alarm := none, answered := true }.does
        (portal.drawn histories ++ [PortalDeed.draw (.input true)]))
  | rested (now : Rat) : portal.shaking = false ∨ portal.phase ≠ .handshaking →
      Reacts portal (.shake now) (portal.does [])
  | gaveUp (now : Rat) : portal.shaking = true → portal.phase = .handshaking →
      portal.deadline.getD (now + portal.patience.timeout) - now ≤ 0 →
      Reacts portal (.shake now) portal.giveUp
  | announced (now deadline : Rat) : portal.shaking = true → portal.phase = .handshaking →
      portal.deadline.getD (now + portal.patience.timeout) = deadline → 0 < deadline - now →
      Reacts portal (.shake now)
        ({ portal with deadline := some deadline, attempts := portal.attempts + 1 }.does
          [portal.ready, .shakeAfter
            (if portal.patience.interval ≤ deadline - now then portal.patience.interval else deadline - now)])
  | outdated (action : Nat) : portal.alarm ≠ some action → Reacts portal (.expire action) (portal.does [])
  | needless (action : Nat) : portal.alarm = some action → portal.awaiting = false →
      Reacts portal (.expire action) ({ portal with alarm := none }.does [])
  | expired (action : Nat) : portal.alarm = some action → portal.awaiting = true →
      Reacts portal (.expire action)
        ({ portal with awaiting := false, alarm := none, answered := true }.does
          [.note (.warning (portal.tag ++ " action response timed out")), .draw (.input true),
            .draw (.error ("No response from the primary after " ++
              Decimal.general (portal.patience.action.getD 0) ++ "s."))])

theorem adoptHistories_eq (portal : Portal) (histories : Fields (List (Fields Value))) :
    portal.adoptHistories histories = ({ portal with snapshot := portal.merged histories }, portal.drawn histories) := by
  induction histories generalizing portal with
  | nil =>
    have same : portal.merged [] = portal.snapshot := by
      cases found : portal.snapshot <;> simp [merged, found, Fields.putAll]
    rw [adoptHistories, same]
    rfl
  | cons pair rest ih =>
    obtain ⟨key, history⟩ := pair
    simp only [adoptHistories, adoptHistory]
    by_cases shown : portal.historyKeys.contains key = true
    · rw [if_pos shown]
      simp only [ih, merged, drawn, List.filter_cons, shown, if_true, Option.map_map, List.map_cons]
      rfl
    · rw [if_neg shown]
      simp only [ih, merged, drawn, List.filter_cons, shown]
      rfl

theorem reacts_hear (portal : Portal) (data : Value) : Reacts portal (.hear data) (portal.hear data) := by
  unfold hear
  by_cases gone : portal.phase = .closed ∨ portal.phase = .failed
  · rw [if_pos (by simpa using gone)]
    exact .deaf data gone
  · rw [if_neg (by simpa using gone)]
    have open' : portal.phase ≠ .closed := fun same => gone (Or.inl same)
    have working : portal.phase ≠ .failed := fun same => gone (Or.inr same)
    cases read : Message.parse data with
    | error fault => exact .dropped data fault open' working read
    | ok message =>
      cases message with
      | ready asker | request payload asker | closing asker => exact .passed data _ open' working read rfl
      | update update =>
        simp only [adopt]
        by_cases wanted : portal.wants = true
        · have waits := wanted
          unfold wants at waits
          rw [if_pos waits]
          cases made : update.plain with
          | error fault => exact .unreadable data update fault wanted read made
          | ok snapshot => exact .adopted data update snapshot wanted read made
        · have waits := wanted
          unfold wants at waits
          rw [if_neg waits]
          exact .passed data _ open' working read (by simpa [passes] using wanted)
      | response histories addressee =>
        simp only [receive, adoptHistories_eq]
        by_cases synced : portal.phase = .synced
        · rw [if_neg (by simpa using synced)]
          by_cases served : portal.isServed addressee = true
          · have own := served
            unfold isServed at own
            rw [if_pos own]
            exact .served data histories addressee synced read served
          · have own := served
            unfold isServed at own
            rw [if_neg own]
            exact .received data histories addressee synced read (by simpa using served)
        · rw [if_pos synced]
          exact .passed data _ open' working read (by simpa [passes] using synced)

theorem reacts_act (portal : Portal) (payload : Value) : Reacts portal (.call (.act payload)) (portal.act payload) := by
  unfold act
  by_cases synced : portal.phase = .synced
  · rw [if_neg (by simpa using synced)]
    by_cases waiting : portal.awaiting = true
    · rw [if_pos waiting]
      exact .alreadyAwaiting payload synced waiting
    · rw [if_neg waiting]
      have idle : portal.awaiting = false := by simpa using waiting
      cases read : Schema.text payload with
      | valid text =>
        dsimp only [Checked.toExcept]
        split
        · rename_i none
          exact .asked payload text synced idle none read
        · rename_i span given
          exact .askedFor payload text span synced idle given read
      | invalid found => exact .badPayload payload found _ synced idle read
  · rw [if_pos synced]
    exact .cannotAct payload synced

theorem reacts_obey (portal : Portal) (call : Call) : Reacts portal (.call call) (portal.obey call) := by
  cases call with
  | start =>
    by_cases fresh : portal.phase = .initial
    · rw [obey, start, if_neg (by simpa using fresh)]
      exact .started fresh
    · rw [obey, start, if_pos fresh]
      exact .alreadyStarted fresh
  | close =>
    by_cases gone : portal.phase = .closed
    · rw [obey, close, if_pos gone]
      exact .closedAgain gone
    · rw [obey, close, if_neg gone]
      exact .closed gone
  | resync =>
    by_cases synced : portal.phase = .synced
    · rw [obey, requestResync, if_neg (by simpa using synced)]
      exact .resynced synced
    · rw [obey, requestResync, if_pos synced]
      exact .cannotResync synced
  | act payload => exact reacts_act portal payload
  | post message =>
    simp only [obey, post]
    cases sending : message.dump with
    | error fault => exact .undecodable message fault sending
    | ok data => exact .posted message data sending

theorem reacts_shake (portal : Portal) (now : Rat) : Reacts portal (.shake now) (portal.shake now) := by
  unfold shake
  by_cases shaking : portal.shaking = true ∧ portal.phase = .handshaking
  · rw [if_pos (by simpa using shaking)]
    by_cases late : portal.deadline.getD (now + portal.patience.timeout) - now ≤ 0
    · simp only [if_pos late]
      exact .gaveUp now shaking.1 shaking.2 late
    · simp only [if_neg late]
      exact .announced now _ shaking.1 shaking.2 rfl (Rat.not_le.mp late)
  · rw [if_neg (by simpa using shaking)]
    refine .rested now ?_
    by_cases still : portal.shaking = true
    · exact Or.inr fun same => shaking ⟨still, same⟩
    · exact Or.inl (by simpa using still)

theorem reacts_expire (portal : Portal) (action : Nat) :
    Reacts portal (.expire action) (portal.expire action) := by
  unfold expire
  by_cases armed : portal.alarm = some action
  · rw [if_neg (by simpa using armed)]
    by_cases waiting : portal.awaiting = true
    · rw [if_neg (by simpa using waiting)]
      exact .expired action armed waiting
    · rw [if_pos (by simpa using waiting)]
      exact .needless action armed (by simpa using waiting)
  · rw [if_pos armed]
    exact .outdated action armed

/-- A portal takes one of these courses. -/
theorem reacts (portal : Portal) (stimulus : Stimulus) : Reacts portal stimulus (portal.react stimulus) := by
  cases stimulus with
  | call call => exact reacts_obey portal call
  | hear data => exact reacts_hear portal data
  | shake now => exact reacts_shake portal now
  | expire action => exact reacts_expire portal action

namespace Reacts

variable {portal : Portal} {stimulus : Stimulus} {outcome : PortalOutcome}

/-- What a portal is told at its making stays. -/
theorem frame (reacts : Reacts portal stimulus outcome) :
    outcome.portal.name = portal.name ∧ outcome.portal.patience = portal.patience ∧
      outcome.portal.historyKeys = portal.historyKeys := by
  cases reacts <;> exact ⟨rfl, rfl, rfl⟩

/-- A portal by itself sends only announcements, requests and farewells in its own name. -/
theorem sends (reacts : Reacts portal stimulus outcome) {message : Message} (member : .send message ∈ outcome.deeds) :
    message = .ready (some portal.name) ∨ message = .closing (some portal.name) ∨
      (∃ payload, message = .request payload (some portal.name)) ∨ stimulus = .call (.post message) := by
  cases reacts <;> simp_all [does, refuses, giveUp, ready, drawn, farewell]

/-- What a portal hears sets no alarm. -/
theorem unalarmed {data : Value} (reacts : Reacts portal (.hear data) outcome) (span : Rat) (action : Nat) :
    .alarm span action ∉ outcome.deeds := by
  cases reacts <;> simp [does, refuses, drawn]

theorem leaves (reacts : Reacts portal stimulus outcome) (member : .leave ∈ outcome.deeds) :
    stimulus = .call .close := by
  cases reacts <;> simp_all [does, refuses, giveUp, ready, drawn, farewell]

theorem joins (reacts : Reacts portal stimulus outcome) (member : .join ∈ outcome.deeds) :
    stimulus = .call .start := by
  cases reacts <;> simp_all [does, refuses, giveUp, ready, drawn, farewell]

end Reacts

end Portal

end Workbench
