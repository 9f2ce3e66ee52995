namespace Workbench.Text

/-- What follows a given beginning. -/
def dropLead? : List Char → List Char → Option (List Char)
  | [], cs => some cs
  | _ :: _, [] => none
  | p :: ps, c :: cs => if p = c then dropLead? ps cs else none

/-- Whether a text begins with another. -/
def leads (lead s : String) : Bool :=
  (dropLead? lead.toList s.toList).isSome

/-- What stands before and after the first place where `mark` occurs. -/
def cutFirst (mark : List Char) : List Char → Option (List Char × List Char)
  | [] => if mark.isEmpty then some ([], []) else none
  | c :: rest =>
    match dropLead? mark (c :: rest) with
    | some after => some ([], after)
    | none => (cutFirst mark rest).map fun parts => (c :: parts.1, parts.2)

/-- Whether `mark` occurs in a text. -/
def occurs (mark s : String) : Bool :=
  (cutFirst mark.toList s.toList).isSome

/-- Replace every occurrence of a non-empty mark, from left to right and without overlap. The first
argument counts the characters of the current occurrence that are still to be passed over. -/
def replaceFrom (mark text : List Char) : Nat → List Char → List Char
  | _, [] => []
  | skip + 1, _ :: rest => replaceFrom mark text skip rest
  | 0, c :: rest =>
    if (dropLead? mark (c :: rest)).isSome then
      text ++ replaceFrom mark text (mark.length - 1) rest
    else c :: replaceFrom mark text 0 rest

def replaceAll (mark text s : String) : String :=
  String.ofList (replaceFrom mark.toList text.toList 0 s.toList)

/-- The pieces between the occurrences of a character; always at least one. -/
def piecesOf (mark : Char) : List Char → List (List Char)
  | [] => [[]]
  | c :: rest =>
    match piecesOf mark rest with
    | [] => [[c]]
    | piece :: pieces => if c = mark then [] :: piece :: pieces else (c :: piece) :: pieces

def pieces (mark : Char) (s : String) : List String :=
  (piecesOf mark s.toList).map String.ofList

/-- What follows the last occurrence of a character, or the whole text without one. -/
def afterLast (mark : Char) (s : String) : String :=
  (pieces mark s).getLast?.getD s

/-- Texts with a separator between neighbours. -/
def join (separator : String) : List String → String
  | [] => ""
  | [s] => s
  | s :: rest => s ++ separator ++ join separator rest

end Workbench.Text
