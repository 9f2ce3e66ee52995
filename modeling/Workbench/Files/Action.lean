import Workbench.Catalog.Command
import Workbench.Files.Store
import Workbench.Notice
import Workbench.Template

namespace Workbench

/-- One entry of the list of changed files. -/
structure FileChange where
  verb : FileVerb
  path : String
  deriving DecidableEq

namespace FileAction

def unresolvedNotice (action : FileAction) : Notice :=
  .warning ("Unresolved path template " ++ Text.quoted action.path ++ "; skipping " ++ action.verb.word)

/-- A path that is empty or still holds a mark of the template language names no file. -/
def isResolved (path : String) : Bool :=
  path ≠ "" && !Text.occurs "%%" path

/-- The store after appending text to an entry: arrays grow by an item, texts by a line. Blobs are left
alone. -/
def append? (store : Store) (path text : String) : Option Store :=
  match Fields.get? store path with
  | none => some (Fields.put store path (.text text))
  | some (.text old) => some (Fields.put store path (.text (if old = "" then text else old ++ "\n" ++ text)))
  | some (.array items) => some (Fields.put store path (.array (items ++ [.text text])))
  | some (.blob _) => none

/-- The store after an action at a path, or none when the action does not apply: an entry to create must
be absent, one to update or delete present. -/
def perform? (verb : FileVerb) (store : Store) (path text : String) : Option Store :=
  match verb with
  | .create => if Fields.has store path then none else some (Fields.put store path (.text text))
  | .update => if Fields.has store path then some (Fields.put store path (.text text)) else none
  | .append => append? store path text
  | .delete => if Fields.has store path then some (Fields.erase store path) else none

/-- What actions did: the store after them, the changes in order, and notices. -/
structure Outcome where
  store : Store
  changed : List FileChange
  notices : List Notice

def step (params : Fields Value) (outcome : Outcome) (action : FileAction) : Outcome :=
  let path := Template.render action.path params
  if isResolved path then
    match perform? action.verb outcome.store path (Template.render action.content params) with
    | some store => { outcome with store := store, changed := outcome.changed ++ [⟨action.verb, path⟩] }
    | none => outcome
  else { outcome with notices := outcome.notices ++ [action.unresolvedNotice] }

/-- Carry out actions in order. -/
def performAll (actions : List FileAction) (params : Fields Value) (store : Store) : Outcome :=
  actions.foldl (step params) ⟨store, [], []⟩

end FileAction

end Workbench
