import Workbench.Files.Store
import Workbench.Notice
import Workbench.Text.Quoted

namespace Workbench

/-- A file tree under construction. A folder knows its children by name. -/
inductive Branch where
  | file
  | folder (children : List (String × Branch))

/-- A file tree as it is shown: folders before files, each group in code point order of names. -/
inductive TreeItem where
  | file (name path : String)
  | folder (name path : String) (children : List TreeItem)

mutual

/-- A tree item as an object. -/
def TreeItem.toValue : TreeItem → Value
  | .file name path => .object [("name", .text name), ("path", .text path), ("type", .text "file")]
  | .folder name path children => .object [("name", .text name), ("path", .text path),
      ("type", .text "folder"), ("children", .list (TreeItem.toValues children))]

def TreeItem.toValues : List TreeItem → List Value
  | [] => []
  | item :: rest => item.toValue :: TreeItem.toValues rest

end

namespace Tree

/-- The segments of a path that are not empty. -/
def segments (path : String) : List String :=
  (Text.pieces '/' path).filter (· ≠ "")

def emptyPathNotice (path : String) : Notice :=
  .warning ("Ignoring empty path " ++ Text.quoted path ++ " in tree build")

def conflictNotice (path : String) : Notice :=
  .warning ("Path " ++ path ++ " is both a file and a folder; treating it as a folder")

/-- Put a file below a folder, with the folders on its way. A path that is also the way to another one
stays or becomes a folder, with a notice of the conflict. -/
def insert (location : String) : List String → Fields Branch → Fields Branch × List Notice
  | [], children => (children, [])
  | [leaf], children =>
    match children.get? leaf with
    | some (.folder _) => (children, [conflictNotice (location ++ "/" ++ leaf)])
    | _ => (children.put leaf .file, [])
  | segment :: next :: rest, children =>
    let path := location ++ "/" ++ segment
    let (inner, before) : Fields Branch × List Notice := match children.get? segment with
      | some (.folder inner) => (inner, [])
      | some .file => ([], [conflictNotice path])
      | none => ([], [])
    let (inner, notices) := insert path (next :: rest) inner
    (children.put segment (.folder inner), before ++ notices)

/-- Put one path into the tree. A path without segments is ignored with a notice. -/
def addPath (acc : Fields Branch × List Notice) (path : String) : Fields Branch × List Notice :=
  match segments path with
  | [] => (acc.1, acc.2 ++ [emptyPathNotice path])
  | way =>
    let (children, notices) := insert "" way acc.1
    (children, acc.2 ++ notices)

/-- A list without its repetitions next to each other. -/
def dropRepeats : List String → List String
  | [] => []
  | [s] => [s]
  | s :: next :: rest => if s = next then dropRepeats (next :: rest) else s :: dropRepeats (next :: rest)

/-- The distinct paths that are not excluded, in code point order. -/
def kept (excluded paths : List String) : List String :=
  (dropRepeats (paths.mergeSort fun a b => decide (a ≤ b))).filter fun path => !excluded.contains path

def isFolder : TreeItem → Bool
  | .folder .. => true
  | .file .. => false

def itemName : TreeItem → String
  | .file name _ => name
  | .folder name _ _ => name

/-- Siblings in order of display. -/
def arrange (items : List TreeItem) : List TreeItem :=
  let sorted := items.mergeSort fun a b => decide (itemName a ≤ itemName b)
  sorted.filter isFolder ++ sorted.filter fun item => !isFolder item

mutual

def showBranch (name path : String) : Branch → TreeItem
  | .file => .file name path
  | .folder children => .folder name path (arrange (showAll path children))

/-- The children of a folder; the root's own path is left out of theirs. -/
def showAll (location : String) : List (String × Branch) → List TreeItem
  | [] => []
  | (name, branch) :: rest =>
    showBranch name (location ++ "/" ++ name) branch :: showAll location rest

end

/-- The tree of flat paths. The order and repetition of the paths do not matter. -/
def build (paths excluded : List String) : TreeItem × List Notice :=
  let (children, notices) := (kept excluded paths).foldl addPath ([], [])
  (.folder "" "/" (arrange (showAll "" children)), notices)

end Tree

end Workbench
