import Workbench.Sync.Snapshot
import Workbench.Value.Display

namespace Workbench

/-- The envelopes that the primary and its portals exchange. -/
inductive Message where
  | ready (portal : Option String)
  | update (snapshot : Snapshot)
  | request (payload : String) (portal : Option String)
  | response (payload : Fields (List (Fields Value))) (portal : Option String)
  | closing (portal : Option String)
  deriving DecidableEq

namespace Message

/-- The tag that tells the envelopes apart. -/
def tag : Message → String
  | .ready _ => "PORTAL_READY"
  | .update _ => "STATE_UPDATE"
  | .request .. => "ACTION_REQUEST"
  | .response .. => "ACTION_RESPONSE"
  | .closing _ => "PORTAL_CLOSING"

end Message

namespace Schema

def portal (members : Fields Value) : Checked (Option String) :=
  optional members "portal" none (nullable text)

/-- An envelope, whose tag selects what else it must hold. -/
def message (members : Fields Value) : Checked Message :=
  match members.get? "type" with
  | none => fail .noTag
  | some (.text "PORTAL_READY") => Message.ready <$> portal members
  | some (.text "STATE_UPDATE") => Message.update <$> required members "payload" snapshot
  | some (.text "ACTION_REQUEST") =>
    Message.request <$> optional members "payload" "" text <*> portal members
  | some (.text "ACTION_RESPONSE") =>
    Message.response <$> optional members "payload" [] (dictionary (list anyObject)) <*> portal members
  | some (.text "PORTAL_CLOSING") => Message.closing <$> portal members
  | some _ => fail .unknownTag

end Schema

namespace Message

/-- The members of an envelope besides its tag, before they are made fit for sending. -/
def body : Message → Fields Value
  | .ready portal => [("portal", .ofText? portal)]
  | .update snapshot => [("payload", snapshot.toValue)]
  | .request payload portal => [("payload", .text payload), ("portal", .ofText? portal)]
  | .response payload portal =>
    [("payload", .object (payload.mapValues fun history => .list (history.map .object))),
      ("portal", .ofText? portal)]
  | .closing portal => [("portal", .ofText? portal)]

mutual

/-- A value in the terms of JSON: numbers that are not finite become nothing, and bytes the text that
they encode. -/
def plain : Value → Except Text.DecodeFault Value
  | .float x => .ok (if x.isFinite then .float x else .null)
  | .bytes content => (Text.decodeUtf8 content).map .text |>.mapError
      fun fault => { fault with reason := .invalid, count := 1 }
  | .list items => (plainItems items).map .list
  | .object members => (plainMembers members).map .object
  | value => .ok value

def plainItems : List Value → Except Text.DecodeFault (List Value)
  | [] => .ok []
  | item :: rest => do return (← plain item) :: (← plainItems rest)

def plainMembers : List (String × Value) → Except Text.DecodeFault (List (String × Value))
  | [] => .ok []
  | (name, value) :: rest => do return (name, ← plain value) :: (← plainMembers rest)

end

/-- A list of objects in the terms of JSON. -/
def plainEntries (entries : List (Fields Value)) : Except Text.DecodeFault (List (Fields Value)) :=
  entries.mapM plainMembers

/-- The envelope as it is sent. -/
def dump (message : Message) : Except Text.DecodeFault Value :=
  plain (.object (("type", .text message.tag) :: message.body))

end Message

/-- A snapshot in the terms of JSON. -/
def Snapshot.plain (snapshot : Snapshot) : Except Text.DecodeFault Snapshot := do
  let state ← Message.plainMembers snapshot.state
  let histories ← snapshot.histories.mapM fun entry => return (entry.1, ← Message.plainEntries entry.2)
  let log ← Message.plainEntries snapshot.log
  return ⟨state, histories, log, ← Message.plainMembers snapshot.files⟩

namespace Value

mutual

/-- How many levels a value has. Whatever stands in a list or an object is a level further down. -/
def depth : Value → Nat
  | .list items => itemDepth items + 1
  | .object members => memberDepth members + 1
  | _ => 1

def itemDepth : List Value → Nat
  | [] => 0
  | item :: rest => max item.depth (itemDepth rest)

def memberDepth : List (String × Value) → Nat
  | [] => 0
  | (_, value) :: rest => max value.depth (memberDepth rest)

end

end Value

/-- The values of any kind that a snapshot holds. -/
def Snapshot.contents (snapshot : Snapshot) : List Value :=
  snapshot.state.values ++ (snapshot.histories.values.flatten.flatMap Fields.values) ++
    snapshot.log.flatMap Fields.values ++ snapshot.files.values

namespace Message

/-- The values of any kind that an envelope holds. -/
def contents : Message → List Value
  | .update snapshot => snapshot.contents
  | .response payload _ => payload.values.flatten.flatMap Fields.values
  | .ready _ | .request .. | .closing _ => []

/-- Whether the values in an envelope have no more than so many levels. -/
def isWithin (levels : Nat) (message : Message) : Bool :=
  message.contents.all fun value => value.depth ≤ levels

/-- What may be raised where an envelope is checked or written out: it is invalid, bytes in it are no text, a value in
it is nested too deep, or something else of which only the kind is known. -/
inductive Raised where
  | invalid (failures : List Failure)
  | undecodable (fault : Text.DecodeFault)
  | tooDeep
  | other (kind : String)

namespace Raised

def message : Raised → String
  | .invalid failures => toString failures.length ++ " validation error(s)"
  | .undecodable fault => fault.message
  | .tooDeep => "Circular reference detected (depth exceeded)"
  | .other kind => kind

/-- Whether it is one of the errors that are told of a bad value. -/
def isValueError : Raised → Bool
  | .other _ => false
  | _ => true

end Raised

/-- How envelopes are checked and written out. -/
structure Codec where
  validate : Fields Value → Except Raised Message
  dump : Message → Except Raised Value

/-- How many levels a value in an envelope may have to be written out. -/
def levels : Nat := 254

/-- Envelopes are checked by their schema, and written out as they are sent unless a value is nested too deep. -/
def Codec.standard : Codec where
  validate := fun members => (Schema.message members).toExcept.mapError .invalid
  dump := fun message =>
    if message.isWithin levels then message.dump.mapError .undecodable else .error .tooDeep

end Message

/-- Why a value is no envelope; anything but its being invalid that is raised while it is checked escapes. -/
inductive MessageFault where
  | notObject (kind : String)
  | invalid (tag : Value) (failures : List Failure)
  | escaped (raised : Message.Raised)

namespace MessageFault

def message : MessageFault → String
  | .notObject kind => "Message envelope must be an object, got " ++ kind
  | .invalid tag failures =>
    if tag.isWritable then
      "Invalid message " ++ tag.literal ++ ": " ++ toString failures.length ++ " error(s)"
    else Decimal.limitMessage ++ Decimal.limitAdvice
  | .escaped raised => raised.message

def isValueError : MessageFault → Bool
  | .notObject _ | .invalid .. => true
  | .escaped raised => raised.isValueError

end MessageFault

namespace Message

/-- The envelope that a value is. -/
def Codec.parse (codec : Codec) : Value → Except MessageFault Message
  | .object members => match codec.validate members with
    | .ok message => .ok message
    | .error (.invalid failures) => .error (.invalid ((Fields.get? members "type").getD .null) failures)
    | .error raised => .error (.escaped raised)
  | other => .error (.notObject other.kindName)

def parse : Value → Except MessageFault Message :=
  Codec.standard.parse

end Message

end Workbench
