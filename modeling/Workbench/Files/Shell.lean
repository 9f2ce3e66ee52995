import Workbench.Files.Store
import Workbench.Files.Words

namespace Workbench.Shell

/-- What the shell answers to a line. -/
structure Reply where
  output : String
  isError : Bool
  deriving DecidableEq

def done (output : String) : Reply := ⟨output, false⟩

def refused (output : String) : Reply := ⟨output, true⟩

def helpText : String := Text.join "\n" [
  "LIA Virtual Shell Commands:",
  "  `ls [path]`       - List files and directories. e.g., `ls /bootstrap`",
  "  `cat <file>`      - Display file content.",
  "  `echo \"...\" > <file>` - Write text to a file. Overwrites existing files, appends to arrays.",
  "  `state`           - Display the current system state vector.",
  "  `clear`           - Clear the terminal screen.",
  "  `help`            - Show this help message.",
  "",
  "  All paths are absolute from /."]

/-- What a listing shows of a path below a folder: the next segment, with a slash if more follows. -/
def entryBelow? (folder path : List Char) : Option (List Char) :=
  match Text.dropLead? folder path with
  | none | some [] => none
  | some rest => match Text.cutFirst ['/'] rest with
    | some (first, _) => some (first ++ ['/'])
    | none => some rest

/-- The entries of a folder, each once, in code point order. -/
def entriesOf (store : Store) (path : String) : List String :=
  let folder := if path.toList.getLast? = some '/' then path.toList else path.toList ++ ['/']
  let entries := (Fields.keys store).filterMap fun key => (entryBelow? folder key.toList).map String.ofList
  entries.eraseDups.mergeSort fun a b => decide (a ≤ b)

/-- List a folder, or a single file by its last segment. -/
def list (store : Store) (argument : Option String) : Reply :=
  let path := (argument.filter (· ≠ "")).getD "/"
  let entries := entriesOf store path
  if entries.isEmpty then
    if Fields.has store path then done (Text.afterLast '/' path)
    else refused ("ls: cannot access '" ++ path ++ "': No such file or directory")
  else done (Text.join "\n" entries)

def cat (store : Store) (argument : Option String) : Except Json.NotEncodable Reply :=
  match argument.filter (· ≠ "") with
  | none => .ok (refused "cat: missing operand")
  | some path => (Store.readText store path).map fun
    | some text => done text
    | none => refused ("cat: " ++ path ++ ": No such file or directory")

def echoWord : String := "echo"

/-- A text without the double quotes around it. -/
def unwrap (s : String) : String :=
  match s.toList with
  | '"' :: rest => if rest.getLast? = some '"' then String.ofList rest.dropLast else s
  | _ => s

/-- Write the text before the redirection mark to the path after it. A text grows an array by an item
and replaces any other content. -/
def echo (store : Store) (line : String) : Reply × Store :=
  match Text.cutFirst " > ".toList line.toList with
  | none => (refused "echo: syntax error", store)
  | some (head, tail) =>
    let target := Text.strip (String.ofList tail)
    if target = "" then (refused "echo: syntax error", store)
    else
      let message := unwrap (Text.strip (String.ofList (head.drop echoWord.length)))
      match Fields.get? store target with
      | some (.array items) =>
        (done ("→ Whisper written to " ++ target),
          Fields.put store target (.array (items ++ [.text message])))
      | _ => (done ("→ Data written to " ++ target), Fields.put store target (.text message))

/-- The words of a line as a shell reads them; a line that a shell cannot read is cut at white space. -/
def wordsOf (line : String) : List String :=
  match Words.split line with
  | .ok words => words
  | .error _ => Text.words line

/-- Run one line of the shell over the file store. -/
def run (state : Fields Value) (store : Store) (input : String) : Except Json.NotEncodable (Reply × Store) :=
  let line := Text.strip input
  if line = "" then .ok (done "", store)
  else
    let words := wordsOf line
    let argument := words.tail.head?
    match words.head?.getD "" with
    | "ls" => .ok (list store argument, store)
    | "cat" => (cat store argument).map (·, store)
    | "echo" => .ok (echo store line)
    | "state" => (Json.encode .indented (.object state)).map fun text => (done text, store)
    | "clear" => .ok (done "", store)
    | "help" => .ok (done helpText, store)
    | word => .ok (refused ("Unknown command: " ++ word ++ ". Type 'help' for a list of commands."), store)

end Workbench.Shell
