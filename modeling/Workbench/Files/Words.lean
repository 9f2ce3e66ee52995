namespace Workbench.Words

/-- Where the reader of a shell line stands. An escape returns to a bare word or into double quotes. -/
inductive Mode where
  | bare
  | quoted (mark : Char)
  | escaped (within : Bool)
  deriving DecidableEq

/-- A line that ends within quotes or after a backslash. -/
inductive Unfinished where
  | noClosingQuote
  | noEscapedCharacter
  deriving DecidableEq

def isSeparator (c : Char) : Bool :=
  c == ' ' || c == '\t' || c == '\r' || c == '\n'

/-- The word read so far, in reverse; none before a word has begun. -/
abbrev Current := Option (List Char)

def extend (current : Current) (c : Char) : Current :=
  some (c :: current.getD [])

def finish (current : Current) : List (List Char) :=
  (current.map List.reverse).toList

/-- Split a line into words as a shell does. Single quotes keep everything; within double quotes a
backslash escapes itself and the quote only; elsewhere it escapes any character. Quotes alone make an
empty word. -/
def splitFrom : Mode → Current → List Char → Except Unfinished (List (List Char))
  | .bare, current, [] => .ok (finish current)
  | .quoted _, _, [] => .error .noClosingQuote
  | .escaped _, _, [] => .error .noEscapedCharacter
  | .bare, current, c :: rest =>
    if isSeparator c then (splitFrom .bare none rest).map (finish current ++ ·)
    else if c = '\\' then splitFrom (.escaped false) current rest
    else if c = '"' || c = '\'' then splitFrom (.quoted c) (some (current.getD [])) rest
    else splitFrom .bare (extend current c) rest
  | .quoted mark, current, c :: rest =>
    if c = mark then splitFrom .bare current rest
    else if c = '\\' && mark = '"' then splitFrom (.escaped true) current rest
    else splitFrom (.quoted mark) (extend current c) rest
  | .escaped within, current, c :: rest =>
    if within then
      if c = '\\' || c = '"' then splitFrom (.quoted '"') (extend current c) rest
      else splitFrom (.quoted '"') (extend (extend current '\\') c) rest
    else splitFrom .bare (extend current c) rest

def split (line : String) : Except Unfinished (List String) :=
  (splitFrom .bare none line.toList).map fun words => words.map String.ofList

end Workbench.Words
