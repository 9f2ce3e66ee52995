import Workbench.Files.Index
import Workbench.Files.Mime
import Workbench.Files.Path
import Workbench.Notice
import Workbench.Value.Display

namespace Workbench

/-- What stands at a name below a data root. -/
inductive DataEntry where
  | file (bytes : List UInt8)
  | directory
  deriving DecidableEq

/-- A directory of bootstrap data: the path by which it is called and the files and directories in it,
by their relative names. -/
structure DataRoot where
  path : String
  entries : Fields DataEntry

/-- A line of a manifest: where a file goes and where it comes from. -/
structure ManifestEntry where
  path : Value
  source : Value
  deriving DecidableEq

/-- Why a data root yields no file store. -/
inductive ManifestFault where
  | absent
  | directory
  | undecodable (fault : Text.DecodeFault)
  | malformed (fault : Json.SyntaxFault)
  | noFileList (manifest : String)
  | badEntry (entry : Value)
  | sourceNotText
  | pathNotText

def ManifestFault.message : ManifestFault → String
  | .absent => "No such file or directory"
  | .directory => "Is a directory"
  | .undecodable fault => fault.message
  | .malformed fault => fault.message
  | .noFileList manifest => "Manifest " ++ manifest ++ " must list files"
  | .badEntry entry => "Bad manifest entry: " ++ entry.literal
  | .sourceNotText => "Manifest source is no text"
  | .pathNotText => "Manifest path is no text"

namespace DataRoot

/-- Whether a name is a directory, by itself or because something stands below it. -/
def isDirectory (root : DataRoot) (way : List String) : Bool :=
  way.isEmpty || root.entries.any fun entry =>
    let parts := Path.components entry.1
    (parts = way && entry.2 = .directory) || (parts ≠ way && way.isPrefixOf parts)

/-- Follow components from a directory, `done` the way to it from its end. Two dots lead back up, and
only a directory can be gone through. Above the root there are only directories, and nothing else is
known of what lies outside. -/
def follow (root : DataRoot) : List String → List String → Option (List String)
  | done, [] => some done.reverse
  | done, part :: rest =>
    if root.isDirectory done.reverse then
      if part = ".." then
        if !done.isEmpty then follow root done.tail rest
        else if rest.all (· = "..") then some []
        else none
      else follow root (part :: done) rest
    else none

/-- What stands at a path, which is as a rule below the root. Of all other paths only that of the topmost
directory is known. -/
def lookup (root : DataRoot) (path : String) : Option DataEntry :=
  if Path.isAbsolute path then (if (Path.components path).isEmpty then some .directory else none)
  else match root.follow [] (Path.components path) with
    | none => none
    | some way =>
      if root.isDirectory way then some .directory
      else (root.entries.find? fun entry => Path.components entry.1 = way).map Prod.snd

/-- Line breaks of any kind as line feeds. -/
def foldLineBreaks : List Char → List Char
  | [] => []
  | '\r' :: '\n' :: rest => '\n' :: foldLineBreaks rest
  | '\r' :: rest => '\n' :: foldLineBreaks rest
  | c :: rest => c :: foldLineBreaks rest

/-- The text of a file. -/
def textOf : DataEntry → Except ManifestFault String
  | .directory => .error .directory
  | .file bytes => match Text.decodeUtf8 bytes with
    | .error fault => .error (.undecodable fault)
    | .ok text => .ok (String.ofList (foldLineBreaks text.toList))

def bytesOf : DataEntry → Except ManifestFault (List UInt8)
  | .directory => .error .directory
  | .file bytes => .ok bytes

def manifestName : String := "manifest.json"

/-- A line of a manifest must name a path and a source. -/
def entryOf (value : Value) : Except ManifestFault ManifestEntry :=
  match value with
  | .object members =>
    let path := (Fields.get? members "path").getD .null
    let source := (Fields.get? members "source").getD .null
    if path.truthy && source.truthy then .ok ⟨path, source⟩ else .error (.badEntry value)
  | _ => .error (.badEntry value)

/-- The lines of the manifest: a list, or the member `files` of an object. -/
def manifest (root : DataRoot) : Except ManifestFault (List ManifestEntry) := do
  let entry ← match root.lookup manifestName with
    | some entry => .ok entry
    | none => .error .absent
  let document ← (Json.parse (← textOf entry)).mapError ManifestFault.malformed
  let lines := match document with
    | .object members => (Fields.get? members "files").getD .null
    | other => other
  match lines with
  | .list items => items.mapM entryOf
  | _ => throw (.noFileList (Path.below root.path manifestName))

def missingNotice (root : DataRoot) (source : String) : Notice :=
  .warning ("Manifest source missing: " ++ Path.below root.path source)

/-- Bring one file into the store: text where its media type is text, else bytes. A missing source is
passed over with a notice. -/
def loadEntry (root : DataRoot) (store : Store) (entry : ManifestEntry) :
    Except ManifestFault Store × List Notice :=
  match entry.source with
  | .text source =>
    match root.lookup source with
    | none => (.ok store, [root.missingNotice source])
    | some found =>
      match entry.path with
      | .text path =>
        if Mime.isText (Mime.ofPath path) then
          ((textOf found).map fun text => Fields.put store path (.text text), [])
        else ((bytesOf found).map fun bytes => Fields.put store path (.blob bytes), [])
      | _ => (.error .pathNotText, [])
  | _ => (.error .sourceNotText, [])

def loadEntries (root : DataRoot) : List ManifestEntry → Store → Except ManifestFault Store × List Notice
  | [], store => (.ok store, [])
  | entry :: rest, store =>
    match root.loadEntry store entry with
    | (.error fault, notices) => (.error fault, notices)
    | (.ok store, notices) =>
      let (outcome, later) := loadEntries root rest store
      (outcome, notices ++ later)

/-- The file store of a data root: every file of its manifest, and the preview page. -/
def store (root : DataRoot) : Except ManifestFault Store × List Notice :=
  match root.manifest with
  | .error fault => (.error fault, [])
  | .ok entries =>
    let (outcome, notices) := root.loadEntries entries []
    (outcome.map Index.refresh, notices)

end DataRoot

end Workbench
