import Workbench.Catalog.Load
import Workbench.Files.Index
import Workbench.Files.Shell
import Workbench.Files.Tree
import Workbench.Kernel
import Workbench.State.Gauge
import Workbench.Sync.Snapshot

namespace Workbench

/-- An entry of the activity log. -/
structure LogEntry where
  time : String
  kind : String
  text : String
  deriving DecidableEq

def LogEntry.members (entry : LogEntry) : Fields Value :=
  [("timestamp", .text entry.time), ("type", .text entry.kind), ("text", .text entry.text)]

/-- Something a view should redraw: the gauges as they were, or a history as it is when it is drawn. -/
inductive Event where
  | gauges (gauges : Gauges)
  | history (key : String)
  deriving DecidableEq

namespace Session

def bootstrapPath : String := "/bootstrap/kernel/LIA_MASTER_BOOTSTRAP.json"

def utilitiesPath : String := "/bootstrap/kernel/LIA_UTILITIES.json"

def portals : List String := ["metis", "pupa"]

def historyKeys : List String := ["kernel", "shell"] ++ portals

def logLimit : Nat := 100

def promptPath (portal : String) : String :=
  "/prompts/" ++ portal ++ "_protocol_system_prompt.txt"

/-- A text with its first letter in capitals and the others small. -/
def capitalized (s : String) : String :=
  Text.upper (String.ofList (s.toList.take 1)) ++ Text.asciiLower (String.ofList (s.toList.drop 1))

/-- Why a session cannot begin. -/
inductive StartFault where
  | noBootstrap
  | bootstrap (fault : StoreReadFault)
  | definitions (fault : DefinitionFault)
  | utilities (fault : Json.NotEncodable)
  | catalog (fault : CatalogFault)
  | promptsNotObject

def StartFault.message : StartFault → String
  | .noBootstrap => "Kernel bootstrap missing: " ++ bootstrapPath
  | .bootstrap fault => fault.message
  | .definitions fault => fault.message
  | .utilities fault => fault.message
  | .catalog fault => fault.message
  | .promptsNotObject => "Embedded prompts must be objects"

/-- Why a portal has nothing to say. -/
inductive MonologueFault where
  | unreadablePrompt (fault : Json.NotEncodable)
  | unwritableState (fault : Json.NotEncodable)
  | noPrompt (portal : String)
  | noModel
  | narrator (fault : NarratorFault)

def MonologueFault.message : MonologueFault → String
  | .unreadablePrompt fault => fault.message
  | .unwritableState fault => fault.message
  | .noPrompt portal => capitalized portal ++ " system prompt not loaded."
  | .noModel => "No kernel model configured."
  | .narrator fault => fault.message

/-- What the model is asked with: the template of the prompt, the state as JSON and the last action. -/
structure Brief where
  template : Option String
  state : String
  lastAction : String

/-- A name that no portal has. -/
structure UnknownPortal where
  name : String
  deriving DecidableEq

def UnknownPortal.message (fault : UnknownPortal) : String :=
  "Unknown portal: " ++ fault.name

end Session

/-- The authoritative side of the workbench: files, state, chat histories and activity log. `now` is the
time that new log entries bear. -/
structure Session where
  store : Store
  sources : Sources
  kernel : Kernel
  state : State
  histories : Fields (List ChatEntry)
  events : List Event
  log : List LogEntry
  lastAction : String
  now : String

namespace Session

/-- A member of an object on the way to the embedded prompt; what counts as false is an empty object. -/
def promptMember (value : Value) (name : String) : Except StartFault Value :=
  match value with
  | .object members =>
    let member := (Fields.get? members name).getD .null
    .ok (if member.truthy then member else .object [])
  | _ => .error .promptsNotObject

/-- The prompt for free interpretation that is embedded in the bootstrap. -/
def promptOf (bootstrap : Value) : Except StartFault Value := do
  let protocols ← promptMember (← promptMember bootstrap "EMBEDDED_SYSTEM_PROMPTS") "protocols"
  match protocols with
  | .object members =>
    match (Fields.get? members "LIA_OS").getD (.object []) with
    | .object protocol => return (Fields.get? protocol "prompt_template").getD .null
    | _ => throw .promptsNotObject
  | _ => throw .promptsNotObject

/-- The last entries of a log that has grown beyond its limit. -/
def bounded (log : List LogEntry) : List LogEntry :=
  log.drop (log.length - logLimit)

/-- Make one log entry. -/
def record (session : Session) (kind text : String) : Session :=
  { session with log := bounded (session.log ++ [⟨session.now, kind, text⟩]) }

def history (session : Session) (key : String) : List ChatEntry :=
  (session.histories.get? key).getD []

/-- Put entries at the end of a history. -/
def say (session : Session) (key : String) (entries : List ChatEntry) : Session :=
  { session with histories := session.histories.put key (session.history key ++ entries) }

def noCatalogNotice : Notice :=
  .warning ("No utility catalog at " ++ utilitiesPath ++ "; every command goes to the narrator")

/-- The catalog of a store, if it has one. -/
def catalogOf (store : Store) : Except StartFault (Option Catalog) :=
  match Store.readText store utilitiesPath with
  | .error fault => .error (.utilities fault)
  | .ok none => .ok none
  | .ok (some text) => ((Catalog.load (.text text)).map some).mapError .catalog

/-- Begin a session over a store that holds the bootstrap and, if commands are wanted, the utilities. -/
def start (store : Store) (sources : Sources) (now : String) : Except StartFault (Session × List Notice) := do
  if !Fields.has store bootstrapPath then throw .noBootstrap
  let bootstrap ← (Store.readJson store bootstrapPath).mapError .bootstrap
  let definitions ← (Definition.load bootstrap).mapError .definitions
  let catalog ← catalogOf store
  let prompt ← promptOf bootstrap
  let session : Session := {
    store := store, sources := sources, kernel := ⟨catalog, definitions, prompt⟩
    state := State.initial definitions catalog
    histories := historyKeys.map fun key => (key, [])
    events := [], log := [], lastAction := "", now := now }
  let notices := (if catalog.isNone then [noCatalogNotice] else []) ++ State.initialNotices definitions catalog
  return (session.record "session" "Kernel online.", notices)

/-- The log entries of a completed turn: one for each changed file, then one for the line itself. -/
def recordTurn (session : Session) (turn : Turn) (line : String) : Session :=
  let session := turn.changed.foldl
    (fun session change => session.record "vfs" (change.verb.word ++ " " ++ change.path)) session
  session.record (if turn.role = .model then "kernel" else "error") line

/-- Take over the outcome of a turn: its state and files, the answer and the log entries. -/
def complete (session : Session) (turn : Turn) (line : String) : Session :=
  let session := { session with state := turn.state, store := turn.store }
  let session := session.say "kernel" [ChatEntry.of turn.role turn.text]
  let session := session.recordTurn turn line
  if turn.changed.isEmpty then session else { session with store := Index.refresh session.store }

/-- Tell the views of the gauges and of the kernel's history. -/
def announce (session : Session) : Except Overflow Session :=
  (Gauges.ofState session.kernel.definitions session.state).map fun gauges =>
    { session with events := session.events ++ [.gauges gauges, .history "kernel"] }

/-- Run one line through the kernel. The line is in the history before the turn begins and stays there
when the turn fails. -/
def command (session : Session) (input : Option String) (operator : String) :
    Except Overflow Turn × Session × List Notice :=
  let line := Text.strip (input.getD "")
  let session := { session with lastAction := line }
  let session := session.say "kernel" [ChatEntry.of .user line]
  let step := session.kernel.execute session.sources line session.state session.store
    ((session.history "kernel").map ChatEntry.toValue) operator
  let session := { session with state := step.state, store := step.store, sources := step.sources }
  match step.outcome with
  | .error fault => (.error fault, session, step.notices)
  | .ok turn =>
    let session := session.complete turn line
    match session.announce with
    | .error fault => (.error fault, session, step.notices)
    | .ok session => (.ok turn, session, step.notices)

/-- Run one line of the shell. A line that clears the screen clears the history too. -/
def shell (session : Session) (input : Option String) : Except Json.NotEncodable (Shell.Reply × Session) :=
  let line := Text.strip (input.getD "")
  (Shell.run session.state session.store (input.getD "")).map fun (reply, store) =>
    let session := { session with store := store }
    let session :=
      if line = "clear" then { session with histories := session.histories.put "shell" [] }
      else session.say "shell" [⟨.user, input⟩, ChatEntry.of (if reply.isError then .error else .model) reply.output]
    (reply, if Text.leads "echo" line then { session with store := Index.refresh session.store } else session)

/-- The file tree, without the preview page. -/
def tree (session : Session) : TreeItem × List Notice :=
  Tree.build (Store.paths session.store) [Store.previewRoot]

/-- What a portal would be told now. -/
def snapshot (session : Session) : Snapshot := {
  state := session.state
  histories := session.histories.mapValues fun history => history.map ChatEntry.members
  log := session.log.map LogEntry.members
  files := Snapshot.filesOf session.store }

/-- What a monologue of a portal starts from. -/
def brief (session : Session) (portal : String) : Except MonologueFault Brief :=
  match Store.readText session.store (promptPath portal), Json.encode .indented (.object session.state) with
  | .error fault, _ => .error (.unreadablePrompt fault)
  | _, .error fault => .error (.unwritableState fault)
  | .ok template, .ok state => .ok ⟨template, state, session.lastAction⟩

/-- Let the model think for a portal about the last action. -/
def consult (portal : String) (brief : Brief) (sources : Sources) : Except MonologueFault String × Sources :=
  match brief.template.filter (· ≠ ""), sources.narrator with
  | none, _ => (.error (.noPrompt portal), sources)
  | some _, none => (.error .noModel, sources)
  | some template, some narrator =>
    let system := Template.render template [("LIA_STATE", .text brief.state), ("PROMPT", .text brief.lastAction)]
    let (answer, narrator) := narrator.monologue system brief.lastAction
    (answer.mapError .narrator, { sources with narrator := some narrator })

def reflect (session : Session) (portal : String) : Except MonologueFault String × Sources :=
  match session.brief portal with
  | .error fault => (.error fault, session.sources)
  | .ok brief => consult portal brief session.sources

/-- Put what the model has thought into the history of a portal. A failure is an entry like any other. -/
def utter (session : Session) (portal : String) (answer : Except MonologueFault String) :
    List ChatEntry × Session × List Notice :=
  let (entry, notices) := match answer with
    | .ok text => (ChatEntry.of .model text, [])
    | .error fault =>
      let text := capitalized portal ++ " Monologue Failed: " ++ fault.message
      (ChatEntry.of .error text, [Notice.error text])
  let session := session.say portal [entry]
  (session.history portal, session.record portal "monologue", notices)

/-- One monologue step of a portal. -/
def monologue (session : Session) (portal : String) :
    Except UnknownPortal (List ChatEntry) × Session × List Notice :=
  if portals.contains portal then
    let (answer, sources) := session.reflect portal
    let (entries, session, notices) := { session with sources := sources }.utter portal answer
    (.ok entries, session, notices)
  else (.error ⟨portal⟩, session, [])

/-- The waiting events as they read now; none wait afterwards. -/
def drain (session : Session) : List Value × Session :=
  let shown := session.events.map fun
    | .gauges gauges => gauges.toValue
    | .history key => .object [("type", .text "history_update"), ("key", .text key),
        ("history", .list ((session.history key).map ChatEntry.toValue))]
  (shown, { session with events := [] })

end Session

end Workbench
