import Workbench.Decimal.Print
import Workbench.Notice
import Workbench.Sync.Message
import Workbench.View.Drawing

namespace Workbench

/-- Where a portal stands. A failed or closed portal stays so. -/
inductive PortalPhase where
  | initial
  | handshaking
  | synced
  | failed
  | closed
  deriving DecidableEq

def PortalPhase.word : PortalPhase → String
  | .initial => "INIT"
  | .handshaking => "HANDSHAKING"
  | .synced => "SYNCED"
  | .failed => "FAILED"
  | .closed => "CLOSED"

/-- How often a portal announces itself, for how long, and how long it waits for the answer to an
action: forever if nothing is said. Times are in seconds. -/
structure Patience where
  interval : Rat := 1 / 10
  timeout : Rat := 3
  action : Option Rat := none

/-- A handshake that came to nothing. -/
structure SyncTimeout where
  portal : String
  timeout : Rat
  attempts : Nat
  deriving DecidableEq

def SyncTimeout.message (fault : SyncTimeout) : String :=
  "Portal '" ++ fault.portal ++ "' could not sync with the primary within " ++ Decimal.general fault.timeout ++
    "s (" ++ toString fault.attempts ++ " READY attempts). Close and reopen the portal."

/-- Why a portal refuses a call. -/
inductive PortalFault where
  | alreadyStarted (tag : String) (phase : PortalPhase)
  | cannotResync (tag : String) (phase : PortalPhase)
  | cannotAct (tag : String) (phase : PortalPhase)
  | alreadyAwaiting (tag : String)
  | badPayload (failures : List Failure)
  | undecodable (fault : Text.DecodeFault)

def PortalFault.message : PortalFault → String
  | .alreadyStarted tag phase => tag ++ " already started (" ++ phase.word ++ ")"
  | .cannotResync tag phase => tag ++ " cannot resync from " ++ phase.word
  | .cannotAct tag phase => tag ++ " cannot send actions while " ++ phase.word
  | .alreadyAwaiting tag => tag ++ " already awaiting an action response"
  | .badPayload _ => "The payload of an action must be a text"
  | .undecodable fault => fault.message

/-- What a portal does besides changing itself. -/
inductive PortalDeed where
  | join
  | leave
  | send (message : Message)
  | draw (drawing : Drawing)
  | note (notice : Notice)
  | shake
  | shakeAfter (span : Rat)
  | alarm (span : Rat) (action : Nat)

/-- The secondary side of a channel: a copy of the primary's state, kept up to date by its messages.
`attempts` counts the announcements of the handshake, `actions` the requests; `alarm` is the number of
the request whose answer is waited for only so long. -/
structure Portal where
  name : String
  patience : Patience
  historyKeys : List String
  phase : PortalPhase
  started : Bool
  attempts : Nat
  shaking : Bool
  deadline : Option Rat
  snapshot : Option Snapshot
  resync : Bool
  failure : Option SyncTimeout
  settled : Bool
  awaiting : Bool
  actions : Nat
  alarm : Option Nat
  answered : Bool

/-- What came of a call. -/
structure PortalOutcome where
  portal : Portal
  deeds : List PortalDeed
  fault : Option PortalFault

namespace Portal

/-- A portal that has not begun. It shows the histories it is told to, else the one of its own name. -/
def make (name : String) (patience : Patience) (historyKeys : List String) : Portal := {
  name := name, patience := patience
  historyKeys := if historyKeys.isEmpty then [name] else historyKeys
  phase := .initial, started := false, attempts := 0, shaking := false, deadline := none, snapshot := none, resync := false
  failure := none, settled := false, awaiting := false, actions := 0, alarm := none, answered := false }

def tag (portal : Portal) : String :=
  "[PORTAL:" ++ portal.name ++ "]"

def does (portal : Portal) (deeds : List PortalDeed) : PortalOutcome :=
  ⟨portal, deeds, none⟩

def refuses (portal : Portal) (fault : PortalFault) : PortalOutcome :=
  ⟨portal, [], some fault⟩

/-- Whether the primary has ever answered the handshake. -/
def isAcknowledged (portal : Portal) : Bool :=
  portal.snapshot.isSome

/-- The announcement of a portal. -/
def ready (portal : Portal) : PortalDeed :=
  .send (.ready (some portal.name))

/-- Join the channel and begin the handshake. -/
def start (portal : Portal) : PortalOutcome :=
  if portal.phase ≠ .initial then portal.refuses (.alreadyStarted portal.tag portal.phase)
  else { portal with phase := .handshaking, started := true, shaking := true }.does [.join, .shake]

/-- Give up the handshake, for good. -/
def giveUp (portal : Portal) : PortalOutcome :=
  let fault : SyncTimeout := ⟨portal.name, portal.patience.timeout, portal.attempts⟩
  { portal with phase := .failed, shaking := false, failure := some fault, settled := true }.does
    [.note (.error (portal.tag ++ " " ++ fault.message)), .draw (.error fault.message)]

/-- One round of the handshake: announce the portal and come back after the interval, but not later
than the deadline; at the deadline give up. -/
def shake (portal : Portal) (now : Rat) : PortalOutcome :=
  if portal.shaking && portal.phase = .handshaking then
    let deadline := portal.deadline.getD (now + portal.patience.timeout)
    let remaining := deadline - now
    if remaining ≤ 0 then portal.giveUp
    else { portal with deadline := some deadline, attempts := portal.attempts + 1 }.does
      [portal.ready,
        .shakeAfter (if portal.patience.interval ≤ remaining then portal.patience.interval else remaining)]
  else portal.does []

/-- Leave the channel, for good. -/
def close (portal : Portal) : PortalOutcome :=
  if portal.phase = .closed then portal.does []
  else
    let farewell : List PortalDeed :=
      if portal.phase = .initial then [] else [.send (.closing (some portal.name))]
    { portal with phase := .closed, shaking := false, alarm := none }.does (farewell ++ [PortalDeed.leave])

/-- Ask for a fresh snapshot. -/
def requestResync (portal : Portal) : PortalOutcome :=
  if portal.phase ≠ .synced then portal.refuses (.cannotResync portal.tag portal.phase)
  else { portal with resync := true }.does [portal.ready]

/-- Post any message in the name of the portal. -/
def post (portal : Portal) (message : Message) : PortalOutcome :=
  match message.dump with
  | .ok _ => portal.does [.send message]
  | .error fault => portal.refuses (.undecodable fault)

/-- Ask the primary to act and shut the input until it has answered. Only one request is out at a time;
one whose payload is no text is never sent, and leaves the input shut. -/
def act (portal : Portal) (payload : Value) : PortalOutcome :=
  if portal.phase ≠ .synced then portal.refuses (.cannotAct portal.tag portal.phase)
  else if portal.awaiting then portal.refuses (.alreadyAwaiting portal.tag)
  else
    let portal := { portal with awaiting := true, answered := false }
    match (Schema.text payload).toExcept with
    | .error failures =>
      ⟨portal, [.draw (.input false)],
        some (.badPayload (failures.map fun failure => { failure with path := "payload" :: failure.path }))⟩
    | .ok payload =>
      let number := portal.actions + 1
      let deeds := [.draw (.input false), .send (.request payload (some portal.name))]
      match portal.patience.action with
      | none => { portal with actions := number }.does deeds
      | some span => { portal with actions := number, alarm := some number }.does (deeds ++ [PortalDeed.alarm span number])

/-- The request is over: input opens again. -/
def release (portal : Portal) : Portal × List PortalDeed :=
  ({ portal with awaiting := false, alarm := none, answered := true }, [.draw (.input true)])

/-- The time for an answer is over, unless it was another request's time. -/
def expire (portal : Portal) (action : Nat) : PortalOutcome :=
  if portal.alarm ≠ some action then portal.does []
  else if !portal.awaiting then { portal with alarm := none }.does []
  else
    let (released, deeds) := portal.release
    let span := Decimal.general (portal.patience.action.getD 0)
    released.does ([.note (.warning (portal.tag ++ " action response timed out"))] ++ deeds ++
      [.draw (.error ("No response from the primary after " ++ span ++ "s."))])

/-- Take over a snapshot. The first one ends the handshake; a later one counts only if it was asked for. -/
def adopt (portal : Portal) (snapshot : Snapshot) : PortalOutcome :=
  if portal.phase = .handshaking || (portal.phase = .synced && portal.resync) then
    let portal := { portal with shaking := false, resync := false }
    match snapshot.plain with
    | .error fault => portal.refuses (.undecodable fault)
    | .ok snapshot =>
      { portal with snapshot := some snapshot, phase := .synced, settled := true }.does [.draw (.all snapshot)]
  else portal.does []

/-- Take over one history, if the portal shows it. -/
def adoptHistory (portal : Portal) (key : String) (history : List (Fields Value)) : Portal × List PortalDeed :=
  if portal.historyKeys.contains key then
    ({ portal with snapshot := portal.snapshot.map fun snapshot =>
        { snapshot with histories := snapshot.histories.put key history } },
      [.draw (.history key history)])
  else (portal, [])

def adoptHistories (portal : Portal) : List (String × List (Fields Value)) → Portal × List PortalDeed
  | [] => (portal, [])
  | (key, history) :: rest =>
    let (portal, deeds) := portal.adoptHistory key history
    let (portal, later) := adoptHistories portal rest
    (portal, deeds ++ later)

/-- Take over the answer to an action: the histories that the portal shows, and, if the answer names
this portal or none, the end of its own request. -/
def receive (portal : Portal) (histories : Fields (List (Fields Value))) (addressee : Option String) :
    PortalOutcome :=
  if portal.phase ≠ .synced then portal.does []
  else
    let (portal, deeds) := portal.adoptHistories histories
    if portal.awaiting && (addressee = none || addressee = some portal.name) then
      let (portal, later) := portal.release
      portal.does (deeds ++ later)
    else portal.does deeds

/-- Hear a message. What is no envelope is dropped with a notice. -/
def hear (portal : Portal) (data : Value) : PortalOutcome :=
  if portal.phase = .closed || portal.phase = .failed then portal.does []
  else match Message.parse data with
    | .error fault => portal.does [.note (.warning (portal.tag ++ " dropped message: " ++ fault.message))]
    | .ok (.update snapshot) => portal.adopt snapshot
    | .ok (.response histories addressee) => portal.receive histories addressee
    | .ok (.ready _) | .ok (.request ..) | .ok (.closing _) => portal.does []

/-- What someone who waits for the handshake to end gets: nothing yet, the fault of a failed one, or
nothing more to wait for. -/
def synced? (portal : Portal) : Option (Except SyncTimeout Unit) :=
  if portal.settled then
    match portal.phase, portal.failure with
    | .failed, some fault => some (.error fault)
    | _, _ => some (.ok ())
  else none

end Portal

end Workbench
