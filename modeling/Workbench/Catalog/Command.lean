import Workbench.Catalog.Change

namespace Workbench

/-- What a file action does to the entry at its path. -/
inductive FileVerb where
  | create
  | update
  | append
  | delete
  deriving DecidableEq

namespace FileVerb

def table : List (String × FileVerb) :=
  [("create", create), ("update", update), ("append", append), ("delete", delete)]

def word : FileVerb → String
  | create => "create"
  | update => "update"
  | append => "append"
  | delete => "delete"

end FileVerb

/-- One declared effect of a command on the files. -/
structure FileAction where
  verb : FileVerb
  path : String
  content : String
  deriving DecidableEq

/-- Everything a command does: to the state, to the files, and what it says. -/
structure Impact where
  changes : List StateChange := []
  narrative : String := ""
  diagnostic : String := ""
  actions : List FileAction := []
  deriving DecidableEq

/-- A command of a utility. The usage line names its parameters between angle brackets. -/
structure Command where
  name : Option String
  usage : String
  parameters : Fields String
  impact : Impact
  deriving DecidableEq

/-- The names between angle brackets, in order. The second argument collects an open name in reverse. -/
def placeholdersFrom : List Char → Option (List Char) → List (List Char)
  | [], _ => []
  | c :: rest, some name =>
    if c = '>' then name.reverse :: placeholdersFrom rest none else placeholdersFrom rest (some (c :: name))
  | c :: rest, none =>
    if c = '<' && rest.head? ≠ some '>' && rest.contains '>' then placeholdersFrom rest (some [])
    else placeholdersFrom rest none

/-- The required parameters of a command. -/
def Command.placeholders (command : Command) : List String :=
  (placeholdersFrom command.usage.toList none).map String.ofList

namespace Schema

def fileAction : Value → Checked FileAction :=
  model fun members =>
    FileAction.mk <$> required members "action" (choice FileVerb.table)
      <*> required members "path_template" text
      <*> optional members "content_template" "" text

def impact : Value → Checked Impact :=
  model fun members =>
    Impact.mk <$> optional members "state_changes" [] (list change)
      <*> optional members "narrative" "" text
      <*> optional members "dmesg_output" "" text
      <*> optional members "fs_actions" [] (list fileAction)

def command : Value → Checked Command :=
  model fun members =>
    Command.mk <$> optional members "cmd" none (nullable text)
      <*> required members "syntax" text
      <*> optional members "parameters" [] (dictionary text)
      <*> optional members "conceptual_impact" {} impact

end Schema

end Workbench
