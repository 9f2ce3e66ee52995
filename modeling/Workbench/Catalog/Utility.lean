import Workbench.Catalog.Command
import Workbench.Text.Quoted

namespace Workbench

/-- A utility of the catalog. It has named commands, a usage line of its own, or both. -/
structure Utility where
  name : String
  description : String
  mapsTo : Option String
  commands : Option (List Command)
  usage : Option String
  parameters : Fields String
  impact : Option Impact
  signature : String
  deriving DecidableEq

namespace Utility

def backquote : Char := '\x60'

/-- The name by which a utility is called: the part between backquotes at the start of its title, or
the whole title. -/
def commandName (utility : Utility) : String :=
  match utility.name.toList with
  | c :: rest =>
    let inner := rest.takeWhile (· != backquote)
    if c = backquote && !inner.isEmpty && rest.contains backquote then String.ofList inner
    else utility.name
  | [] => utility.name

def ownCommands (utility : Utility) : List Command :=
  utility.commands.getD []

/-- The usage line that a utility has of its own, when it is not empty. -/
def flatUsage? (utility : Utility) : Option String :=
  utility.usage.filter (· != "")

/-- The command that the utility itself is, by its own usage line. -/
def implicitCommand? (utility : Utility) : Option Command :=
  utility.flatUsage?.map fun usage => ⟨none, usage, utility.parameters, utility.impact.getD {}⟩

def findCommand? (utility : Utility) (name : String) : Option Command :=
  utility.ownCommands.find? fun command => command.name = some name

def allCommands (utility : Utility) : List Command :=
  utility.ownCommands ++ utility.implicitCommand?.toList

/-- A utility without a usage line and without commands cannot be called. -/
def isCallable (utility : Utility) : Bool :=
  !utility.ownCommands.isEmpty || utility.flatUsage?.isSome

def notCallableMessage (name : String) : String :=
  "utility " ++ Text.quoted name ++ " declares neither syntax nor commands"

end Utility

namespace Schema

def utilityMembers (members : Fields Value) : Checked Utility :=
  (fun name description mapsTo commands usage parameters impact signature =>
      ⟨name, description, mapsTo, commands, usage, parameters, impact, signature⟩)
    <$> required members "name" text
    <*> optional members "description" "" text
    <*> optional members "maps_to" none (nullable text)
    <*> optional members "commands" none (nullable (list command))
    <*> optional members "syntax" none (nullable text)
    <*> optional members "parameters" [] (dictionary text)
    <*> optional members "conceptual_impact" none (nullable impact)
    <*> optional members "op_sig" "" text

def utility : Value → Checked Utility :=
  model fun members => (utilityMembers members).andThen fun utility =>
    if utility.isCallable then .valid utility else fail (.rule (Utility.notCallableMessage utility.name))

end Schema

end Workbench
