import Workbench.Text.Blank

namespace Workbench.Token

def isQuote (c : Char) : Bool :=
  c == '"' || c == '\''

/-- A finished token, unless it is empty. The characters are held in reverse. -/
def flush (current : List Char) : List (List Char) :=
  if current.isEmpty then [] else [current.reverse]

/-- Split a line into tokens, quotes included. Within a quoted part, which ends at the same quote
character, white space belongs to the token. A quote that is never closed ends a token and is dropped. -/
def scan : Option Char → List Char → List Char → List (List Char)
  | _, current, [] => flush current
  | some quote, current, c :: rest =>
    scan (if c = quote then none else some quote) (c :: current) rest
  | none, current, c :: rest =>
    if isQuote c then
      if rest.contains c then scan (some c) (c :: current) rest
      else flush current ++ scan none [] rest
    else if Text.isBlank c then flush current ++ scan none [] rest
    else scan none (c :: current) rest

def dropOpening : List Char → List Char
  | [] => []
  | c :: rest => if isQuote c then rest else c :: rest

/-- A token without a quote character at its beginning and without one at its end. -/
def unquote (token : List Char) : List Char :=
  (dropOpening (dropOpening token).reverse).reverse

/-- The tokens of a command line. -/
def tokenize (line : String) : List String :=
  (scan none [] (Text.trim Text.isBlank line.toList)).map fun token => String.ofList (unquote token)

end Workbench.Token
