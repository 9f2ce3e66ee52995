import Workbench.Service.Request
import Workbench.Session.Authority
import Workbench.Sync.Outbox

namespace Workbench

/-- Why a request is not served. -/
inductive ServiceFault where
  | malformed (failures : List Failure)
  | session (fault : Session.OpenFault)
  | overflow
  | unwritable (fault : Json.NotEncodable)
  | badMessage (fault : MessageFault)
  | undecodable (fault : Text.DecodeFault)

/-- A session with its channel. Once it is bridged, the primary answers on the channel, and an observer
keeps what is sent there for portals beyond the process. -/
structure Seat where
  exchange : Exchange Session
  bridged : Bool

/-- Sessions by identity, each begun by the first request for it, over one data root and one narrator.
`turns` names the sessions whose jobs are queued, in the order of all jobs, so that all channels share
one queue. -/
structure Service where
  root : DataRoot
  narrator : Option Narrator
  now : String
  seats : Fields Seat
  turns : List String

namespace Seat

def session (seat : Seat) : Session := seat.exchange.state.source

def withSession (seat : Seat) (session : Session) : Seat :=
  { seat with exchange := { seat.exchange with state := { seat.exchange.state with source := session } } }

/-- Let the primary and the observer join the channel, once. -/
def bridge (seat : Seat) : Seat :=
  if seat.bridged then seat else ⟨(seat.exchange.listen .primary).listen .observer, true⟩

/-- Take what the observer has kept for a portal. -/
def drain (seat : Seat) (portal : Option String) : List Value × Seat :=
  let (messages, kept) := Outbox.drain seat.exchange.state.observed portal
  (messages, { seat with
    exchange := { seat.exchange with state := { seat.exchange.state with observed := kept } } })

end Seat

namespace Service

/-- A service that has had no request. -/
def make (root : DataRoot) (narrator : Option Narrator) (now : String) : Service :=
  ⟨root, narrator, now, [], []⟩

/-- Lend the narrator to a session. -/
def lend (service : Service) (seat : Seat) : Seat :=
  seat.withSession { seat.session with sources := { seat.session.sources with narrator := service.narrator } }

/-- Keep a session and take the narrator back. Its new jobs queue behind those of all sessions; `left` is
the number of its jobs that were queued before. -/
def keep (service : Service) (id : String) (seat : Seat) (left : Nat) : Service :=
  { service with
    narrator := seat.session.sources.narrator
    seats := service.seats.put id seat
    turns := service.turns ++ List.replicate (seat.exchange.loop.queue.length - left) id }

/-- The session of an identity, begun if need be. -/
def seat (service : Service) (id : String) : Except Session.OpenFault Seat :=
  match service.seats.get? id with
  | some seat => .ok (service.lend seat)
  | none => (Session.ofData service.root service.narrator service.now).map fun session =>
    ⟨.make ("lia-sync-" ++ id) session [], false⟩

def ofTurn (turn : Turn) (events : List Value) : Value := .object [
  ("role", .text turn.role.word), ("text", .text turn.text), ("state", .object turn.state),
  ("files_changed", .list (turn.changed.map fun change =>
    .object [("action", .text change.verb.word), ("path", .text change.path)])),
  ("events", .list events)]

/-- Serve a request at a seat. -/
def serveAt (seat : Seat) : Request → Except ServiceFault Value × Seat
  | .command line operator =>
    let (outcome, session, _) := seat.session.command (some line) operator
    match outcome with
    | .error _ => (.error .overflow, seat.withSession session)
    | .ok turn =>
      let (events, session) := session.drain
      (.ok (ofTurn turn events), seat.withSession session)
  | .shell line => match seat.session.shell (some line) with
    | .error fault => (.error (.unwritable fault), seat)
    | .ok (reply, session) =>
      (.ok (.object [("output", .text reply.output), ("error", .bool reply.isError)]), seat.withSession session)
  | .state =>
    (.ok (.object [("state", .object seat.session.state),
      ("log", .list (seat.session.log.map fun entry => .object entry.members))]), seat)
  | .tree => (.ok seat.session.tree.1.toValue, seat)
  | .post message => match Message.parse (.object message) with
    | .error fault => (.error (.badMessage fault), seat)
    | .ok message =>
      let seat := seat.bridge
      match message.dump with
      | .error fault => (.error (.undecodable fault), seat)
      | .ok data => match seat.exchange.post data (some .observer) with
        | .error fault => (.error (.unwritable fault), seat)
        | .ok exchange => (.ok (.object [("ok", .bool true)]), { seat with exchange := exchange })
  | .events portal =>
    let (messages, seat) := seat.drain portal
    (.ok (.list messages), seat)

/-- A request that is answered without a session: events where nothing is bridged, and the post of what
is no message. -/
def early? (service : Service) (id : String) : Request → Option (Except ServiceFault Value)
  | .events _ => match service.seats.get? id with
    | some ⟨_, true⟩ => none
    | _ => some (.ok (.list []))
  | .post message => match Message.parse (.object message) with
    | .error fault => some (.error (.badMessage fault))
    | .ok _ => none
  | _ => none

def serve (service : Service) (id : String) (request : Request) : Except ServiceFault Value × Service :=
  match service.early? id request with
  | some answer => (answer, service)
  | none => match service.seat id with
    | .error fault => (.error (.session fault), service)
    | .ok seat =>
      let left := seat.exchange.loop.queue.length
      let (answer, seat) := serveAt seat request
      (answer, service.keep id seat left)

/-- Check the body of a request and serve it. -/
def handle (service : Service) (route : Route) (body : Value) : Except ServiceFault Value × Service :=
  match (Schema.request route body).toExcept with
  | .error failures => (.error (.malformed failures), service)
  | .ok (id, request) => service.serve id request

/-- Run the first job of all. -/
def step? (service : Service) : Option Service :=
  match service.turns with
  | [] => none
  | id :: rest =>
    let service := { service with turns := rest }
    match service.seats.get? id with
    | none => some service
    | some seat =>
      let seat := service.lend seat
      let party := Parties.party Session.authority
      some (match Assembly.step? party seat.exchange with
        | none => service
        | some exchange =>
          service.keep id { seat with exchange := exchange } (seat.exchange.loop.queue.length - 1))

/-- Run at most `fuel` jobs, until none is queued. -/
def runFor : Nat → Service → Service
  | 0, service => service
  | fuel + 1, service =>
    match service.step? with
    | none => service
    | some next => runFor fuel next

/-- Run all queued jobs. -/
def settle (service : Service) : Service :=
  service.runFor Assembly.limit

/-- The identities of all sessions, and of those that are bridged. -/
def sessions (service : Service) : List String :=
  (Fields.sorted service.seats).keys

def bridges (service : Service) : List String :=
  ((Fields.sorted service.seats).filter fun entry => entry.2.bridged).map Prod.fst

end Service

end Workbench
