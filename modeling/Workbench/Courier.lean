import Workbench.Decimal.Read
import Workbench.Dialogue
import Workbench.Json.Printer
import Workbench.Value.Display

namespace Workbench.Courier

open Dialogue

def server : String := "http://localhost:8000"

def method : String := "POST"

/-- What each request declares about its body. -/
def headers : List (String × String) := [("Content-type", "application/json")]

/-- The messages that can be sent. -/
def kinds : List String := ["PORTAL_READY", "ACTION_REQUEST", "PORTAL_CLOSING"]

/-- How much of an event is shown. -/
def shownLength : Nat := 2000

/-- Ask for a text. The default is shown, unless it is empty, and taken when nothing is typed. -/
def question (message default : String) (next : Except String String → Dialogue) : Dialogue :=
  let shown := if default = "" then "" else "[" ++ default ++ "] "
  ask (message ++ " " ++ shown) fun answer =>
    next (answer.map fun typed => if typed = "" then default else typed)

/-- A question without which the program cannot go on. -/
def must (message default : String) (next : String → Dialogue) : Dialogue :=
  question message default fun
    | .ok answer => next answer
    | .error reason => stop (.broken reason)

/-- The message of a number: they are numbered from one, and zero and below count from the end. -/
def kindOf? (typed : String) : Option String :=
  (Decimal.readWhole? typed).bind fun number =>
    let index := number - 1
    if 0 ≤ index then kinds[index.toNat]?
    else if -(kinds.length : Int) ≤ index then kinds[(kinds.length + index).toNat]?
    else none

def post (path : String) (body : Value) (next : Except String Value → Dialogue) : Dialogue :=
  send ⟨server ++ path, Json.render .compact 0 body⟩ next

def failed (reason : String) : Dialogue :=
  say ("Error talking to server: " ++ reason) (stop (.exit 1))

/-- What can be gone through one by one: the items of a list, the names of an object, the characters of
a text. -/
def itemsOf : Value → Except String (List Value)
  | .list items => .ok items
  | .object members => .ok (members.map fun member => .text member.1)
  | .text content => .ok (content.toList.map fun c => .text (String.singleton c))
  | other => .error ("'" ++ other.kindName ++ "' object is not iterable")

def shown (event : Value) : String :=
  String.ofList ((Json.render .indented 0 event).toList.take shownLength)

/-- Fetch the events for a portal and print them. -/
def fetch (session portal : String) : Dialogue :=
  post "/channel/events" (.object [("session_id", .text session), ("portal", .text portal)]) fun
    | .error reason => failed reason
    | .ok reply => match itemsOf reply with
      | .error reason => failed reason
      | .ok events => sayAll (events.map shown) (stop .done)

/-- Send a message, wait for a key, and fetch the events. -/
def deliver (session portal : String) (message : Fields Value) : Dialogue :=
  post "/channel/post" (.object [("session_id", .text session), ("message", .object message)]) fun
    | .error reason => failed reason
    | .ok reply => say ("Post: " ++ reply.display) (ask "Press enter to drain channel events..." fun
      | .error reason => failed reason
      | .ok _ => fetch session portal)

/-- Put a message together. A request for an action has a payload. -/
def compose (session portal kind : String) : Dialogue :=
  let message : Fields Value := [("type", .text kind), ("portal", .text portal)]
  if kind = "ACTION_REQUEST" then
    must "Payload" "" fun payload => deliver session portal (message ++ [("payload", .text payload)])
  else deliver session portal message

/-- The numbered list of messages. -/
def menu : List String :=
  "Choose message type:" :: kinds.mapIdx fun index kind => toString (index + 1) ++ ". " ++ kind

/-- Ask for session, portal and message, and deliver it. -/
def dialogue : Dialogue :=
  must "Session ID" "test-session" fun session =>
    must "Portal" "metis" fun portal =>
      sayAll menu (question "Number" "1" fun answer =>
        match answer.toOption.bind kindOf? with
        | some kind => compose session portal kind
        | none => say "Invalid selection" (stop (.exit 1)))

end Workbench.Courier
