import Workbench.Files.Mime
import Workbench.Files.Store
import Workbench.Schema
import Workbench.State.Basic

namespace Workbench

/-- What a portal is told: the state, the chat histories, the activity log and the files. -/
structure Snapshot where
  state : Fields Value
  histories : Fields (List (Fields Value))
  log : List (Fields Value)
  files : Fields Value
  deriving DecidableEq

namespace Snapshot

def empty : Snapshot := ⟨[], [], [], []⟩

def toValue (snapshot : Snapshot) : Value := .object [
  ("state", .object snapshot.state),
  ("histories", .object (snapshot.histories.mapValues fun history => .list (history.map .object))),
  ("log", .list (snapshot.log.map .object)),
  ("files", .object snapshot.files)]

def placeholder (mime : String) : String :=
  "[Binary Content: " ++ mime ++ "]"

/-- Content as it can be sent: texts, lists and objects as they are, textual bytes as text, and a
placeholder for all else. -/
def sendable (path : String) : Value → Value
  | .bytes content =>
    let mime := Mime.ofPath path
    if Mime.isText mime then
      match Text.decodeUtf8 content with
      | .ok text => .text text
      | .error _ => .text (placeholder mime)
    else .text (placeholder mime)
  | .text content => .text content
  | .list items => .list items
  | .object members => .object members
  | _ => .text (placeholder (Mime.ofPath path))

/-- The files as they can be sent, by path. -/
def filesOf (store : Store) : Fields Value :=
  (Fields.sorted store).map fun entry => (entry.1, sendable entry.1 entry.2.toValue)

end Snapshot

namespace Schema

/-- An object of any members. -/
def anyObject : Value → Checked (Fields Value)
  | .object members => .valid members
  | _ => fail .notObject

def snapshot : Value → Checked Snapshot :=
  model fun members =>
    Snapshot.mk <$> optional members "state" [] anyObject
      <*> optional members "histories" [] (dictionary (list anyObject))
      <*> optional members "log" [] (list anyObject)
      <*> optional members "files" [] anyObject

end Schema

/-- A snapshot of its parts; the histories and the log must be lists of objects. -/
def Snapshot.build (state : Value) (store : Store) (histories log : Value) : Checked Snapshot :=
  Schema.snapshot (.object [
    ("state", state), ("histories", histories), ("log", log), ("files", .object (Snapshot.filesOf store))])

end Workbench
