import Workbench.Text.Cut

namespace Workbench.Path

/-- The components of a path that mean something: empty ones and single dots do not. -/
def components (path : String) : List String :=
  (Text.pieces '/' path).filter fun part => part ≠ "" && part ≠ "."

/-- What a path begins with: one slash, exactly two, or none. -/
def anchor (path : String) : String :=
  match path.toList with
  | '/' :: '/' :: '/' :: _ => "/"
  | '/' :: '/' :: _ => "//"
  | '/' :: _ => "/"
  | _ => ""

def isAbsolute (path : String) : Bool :=
  anchor path ≠ ""

/-- A path without idle components and without a slash at its end. -/
def normal (path : String) : String :=
  let written := anchor path ++ Text.join "/" (components path)
  if written = "" then "." else written

/-- A path below another; an absolute one stands for itself. -/
def below (root path : String) : String :=
  if isAbsolute path then normal path
  else if components path = [] then root
  else root ++ "/" ++ Text.join "/" (components path)

end Workbench.Path
