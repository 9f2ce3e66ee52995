import Std.Time.Format
import Workbench.Config
import Workbench.Rehearsal
import Workbench.Service.Local

namespace Workbench.Main

/-- The data root that is read when the environment names none. -/
def builtInRoot : String := "bootstrap-data"

def usage : String :=
  "workbench rehearse [LINE ...]   run command lines and one portal monologue\n" ++
  "workbench send                  send one message to a service in this process"

def clock : IO String :=
  return (← Std.Time.PlainDateTime.now).format "uuuu-MM-dd'T'HH:mm:ss"

/-- The variables that are set, of those named. -/
def readEnvironment (names : List String) : IO (Fields String) :=
  names.filterMapM fun name => return (← IO.getEnv name).map fun setting => (name, setting)

/-- What stands at a path of the file system. -/
def entryAt (path : String) : IO (Option DataEntry) := do
  try
    return some (.file (← IO.FS.readBinFile path).toList)
  catch
    | .inappropriateType .. => return some .directory
    | _ => return none

/-- The entries of a data root by the names given, without those that are missing. -/
def entriesAt (path : String) (names : List String) : IO (Fields DataEntry) :=
  names.filterMapM fun name => do
    return (← entryAt (Path.below path name)).map fun entry => (name, entry)

/-- A data root with its manifest and the sources that the manifest names. -/
def readRoot (path : String) : IO DataRoot := do
  let root : DataRoot := ⟨path, ← entriesAt path [DataRoot.manifestName]⟩
  let sources := (root.manifest.toOption.getD []).filterMap fun entry => entry.source.text?
  return { root with entries := root.entries ++ (← entriesAt path sources) }

/-- Print what a rehearsal prints; a rehearsal that breaks off ends with its reason. -/
def rehearse (root : DataRoot) (lines : List String) : IO UInt32 := do
  let rehearsal := Rehearsal.perform root none (← clock) lines
  IO.print rehearsal.printed
  match rehearsal.fault with
  | none => return 0
  | some (.session fault) => IO.eprintln fault.message; return 1
  | some .overflow => IO.eprintln "A number is too large."; return 1

/-- A typed line without its end. -/
def readAnswer : IO (Except String String) := do
  let line ← (← IO.getStdin).getLine
  if line.isEmpty then return .error "EOF when reading a line"
  return .ok (String.ofList (line.toList.filter fun c => c ≠ '\n' && c ≠ '\r'))

/-- Hold a dialogue at the terminal, its requests served by a service. -/
def converse : Dialogue → Service → IO UInt32
  | .ask prompt next, service => do
    IO.print prompt
    (← IO.getStdout).flush
    let answer ← readAnswer
    converse (next answer) service
  | .send request next, service =>
    let (reply, service) := service.reply request
    converse (next reply) service
  | .say line next, service => do
    IO.println line
    converse next service
  | .stop ending, _ => match ending with
    | .done => return 0
    | .exit code => return UInt32.ofNat code
    | .broken reason => do
      IO.eprintln reason
      return 1

end Workbench.Main

open Workbench in
/-- Rehearse command lines, or send one message, over the data root that the environment names. -/
def main (arguments : List String) : IO UInt32 := do
  let environment ← Main.readEnvironment Config.names
  let root := (Config.ofEnvironment environment).root.getD Main.builtInRoot
  match arguments with
  | "rehearse" :: lines => Main.rehearse (← Main.readRoot root) lines
  | ["send"] => Main.converse Courier.dialogue (.make (← Main.readRoot root) none (← Main.clock))
  | _ => IO.eprintln Main.usage; return 2
