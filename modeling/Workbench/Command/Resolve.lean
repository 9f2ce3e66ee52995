import Workbench.Catalog.Basic
import Workbench.Command.Token
import Workbench.Text.Cut

namespace Workbench

/-- A source of random whole numbers: what is left of a script of draws. -/
structure Draws where
  script : List Int
  deriving DecidableEq

/-- Draw from a range. A used up script draws the lower bound. -/
def Draws.next (draws : Draws) (low : Int) : Int × Draws :=
  match draws.script with
  | [] => (low, draws)
  | n :: rest => (n, ⟨rest⟩)

/-- Parameters that are drawn at random for the utilities of one signature. -/
def generatedParams (signature : String) : List (String × Int × Int) :=
  if signature = "fs_tools" then [("files_found_count", 1, 5)] else []

/-- Why arguments do not fit a command. -/
inductive BindFault where
  | missingParameter (name : String)
  deriving DecidableEq

def BindFault.message : BindFault → String
  | .missingParameter name => "Missing required parameter: " ++ name

def BindFault.kind : BindFault → String
  | .missingParameter _ => "ParameterError"

/-- A line matched to a command of the catalog, with its parameters or the reason why it has none. -/
structure Resolution where
  utility : Utility
  command : Command
  outcome : Except BindFault (Fields Value)

namespace Resolution

def isFlag (arg : String) : Bool :=
  arg.toList.head? == some '-'

/-- The name of a flag, without one or two dashes. -/
def flagName (arg : String) : String :=
  match arg.toList with
  | '-' :: '-' :: name => String.ofList name
  | '-' :: name => String.ofList name
  | name => String.ofList name

/-- Bind the placeholders in order; the first without an argument is the fault. -/
def bindPositional : List String → List String → Fields Value → Except BindFault (Fields Value)
  | [], _, bound => .ok bound
  | name :: _, [], _ => .error (.missingParameter name)
  | name :: names, arg :: args, bound => bindPositional names args (bound.put name (.text arg))

/-- Flags switch a parameter of their name on. A flag without a name does nothing. -/
def bindFlag (bound : Fields Value) (arg : String) : Fields Value :=
  if flagName arg = "" then bound else bound.put (flagName arg) (.bool true)

def bindGenerated : List (String × Int × Int) → Fields Value → Draws → Fields Value × Draws
  | [], bound, draws => (bound, draws)
  | (key, low, _) :: rest, bound, draws =>
    bindGenerated rest (bound.put key (.int (draws.next low).1)) (draws.next low).2

/-- Bind arguments to a command. Flags may stand anywhere; the other arguments are bound in order. -/
def bind (utility : Utility) (command : Command) (args : List String) (draws : Draws) : Resolution × Draws :=
  match bindPositional command.placeholders (args.filter fun arg => !isFlag arg) [] with
  | .error fault => (⟨utility, command, .error fault⟩, draws)
  | .ok bound =>
    let flagged := (args.filter isFlag).foldl bindFlag bound
    let (params, draws) := bindGenerated (generatedParams utility.signature) flagged draws
    (⟨utility, command, .ok params⟩, draws)

/-- The command of a utility that the tokens after its name select, with its arguments: a sub-command
of the next token's name before the utility's own usage. -/
def select? (utility : Utility) (args : List String) : Option (Command × List String) :=
  let sub := args.head?.bind fun name => (utility.findCommand? name).map fun command => (command, args.tail)
  sub.or (utility.implicitCommand?.map fun command => (command, args))

/-- The first utility of the wanted name that has a command for the tokens. -/
def searchIn (base : String) (args : List String) : List Utility → Option (Utility × Command × List String)
  | [] => none
  | utility :: rest =>
    if utility.commandName = base then
      match select? utility args with
      | some (command, args) => some (utility, command, args)
      | none => searchIn base args rest
    else searchIn base args rest

/-- Match a command line with the catalog. A line that no command matches is left to free
interpretation. -/
def resolve (catalog : Option Catalog) (line : String) (draws : Draws) : Option Resolution × Draws :=
  match catalog, Token.tokenize line with
  | some catalog, base :: args =>
    match searchIn base args catalog.utilities with
    | some (utility, command, args) =>
      let (resolution, draws) := bind utility command args draws
      (some resolution, draws)
    | none => (none, draws)
  | _, _ => (none, draws)

/-- A resolution as a value. The parameters stand as pairs, since their order matters. -/
def describe (resolution : Resolution) : Value :=
  let (params, fault) : Fields Value × Option BindFault := match resolution.outcome with
    | .ok params => (params, none)
    | .error fault => ([], some fault)
  .object [
    ("utility", .text resolution.utility.commandName),
    ("cmd", .ofText? resolution.command.name),
    ("syntax", .text resolution.command.usage),
    ("params", .list (params.map fun param => .list [.text param.1, param.2])),
    ("ok", .bool fault.isNone),
    ("error", .ofText? (fault.map BindFault.message)),
    ("error_kind", .ofText? (fault.map BindFault.kind))]

end Resolution

end Workbench
