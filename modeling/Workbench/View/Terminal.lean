import Workbench.Json.Printer
import Workbench.Text.Upper
import Workbench.View.Drawing

namespace Workbench

/-- Why a value cannot be drawn. -/
inductive DrawFault where
  | notObject
  | notCountable
  | notSequence
  | partsNotList
  | textNotText
  | notEncodable
  deriving DecidableEq

/-- What was printed, and the fault at which printing stopped. -/
structure Printout where
  text : String
  fault : Option DrawFault
  deriving DecidableEq

namespace Printout

def line (text : String) : Printout := ⟨text ++ "\n", none⟩

def stop (fault : DrawFault) : Printout := ⟨"", some fault⟩

def blank : Printout := ⟨"", none⟩

/-- Print on, unless a fault has stopped it. -/
def andThen (first : Printout) (rest : Printout) : Printout :=
  match first.fault with
  | some _ => first
  | none => ⟨first.text ++ rest.text, rest.fault⟩

def sequence (parts : List Printout) : Printout :=
  parts.foldr andThen blank

end Printout

namespace Terminal

/-- How many of the last entries of a history are shown. -/
def shownEntries : Nat := 5

/-- The last items of a list. -/
def lastItems {α : Type} (count : Nat) (items : List α) : List α :=
  items.drop (items.length - count)

/-- The texts of the parts that are objects. A part without text has an empty one. -/
def partTexts : List Value → Except DrawFault (List String)
  | [] => .ok []
  | .object members :: rest =>
    match (Fields.get? members "text").getD (.text "") with
    | .text content => (partTexts rest).map (content :: ·)
    | _ => .error .textNotText
  | _ :: rest => partTexts rest

/-- The text of an entry: its parts with blanks between them. What counts as false has no parts. -/
def entryText (members : Fields Value) : Except DrawFault String :=
  let parts := (members.get? "parts").getD .null
  if !parts.truthy then .ok ""
  else match parts with
    | .list items => (partTexts items).map (Text.join " ")
    | .text _ | .bytes _ | .object _ => .ok ""
    | _ => .error .partsNotList

def entry : Value → Printout
  | .object members =>
    match entryText members with
    | .ok text => .line ("[" ++ ((Fields.get? members "role").getD (.text "?")).display ++ "] " ++ text)
    | .error fault => .stop fault
  | _ => .stop .notObject

def historyTitle (key : String) (size : Nat) : Printout :=
  .line ("-- " ++ key ++ " (" ++ toString size ++ ") --")

/-- A history: its name and size, then its last entries. -/
def history (key : String) : Value → Printout
  | .list items =>
    (historyTitle key items.length).andThen (.sequence ((lastItems shownEntries items).map entry))
  | .text content =>
    (historyTitle key content.length).andThen (if content = "" then .blank else .stop .notObject)
  | .bytes content =>
    (historyTitle key content.length).andThen (if content.isEmpty then .blank else .stop .notObject)
  | .object members => (historyTitle key members.length).andThen (.stop .notSequence)
  | _ => .stop .notCountable

/-- The members of an object; what counts as false has none. -/
def membersOf (value : Value) : Except DrawFault (Fields Value) :=
  if !value.truthy then .ok []
  else match value with
    | .object members => .ok members
    | _ => .error .notObject

/-- Draw something for each member of an object. -/
def eachMember (value : Value) (draw : String → Value → Printout) : Printout :=
  match membersOf value with
  | .ok members => .sequence (members.map fun member => draw member.1 member.2)
  | .error fault => .stop fault

def stateLine (key : String) (value : Value) : Printout :=
  match Json.encode .compact value with
  | .ok text => .line ("  " ++ key ++ ": " ++ text)
  | .error _ => .stop .notEncodable

/-- A full redraw: the state line by line, then every history. -/
def all (name : String) (snapshot : Value) : Printout :=
  let title := (Printout.line "").andThen (.line ("== " ++ Text.upper name ++ " :: synced =="))
  match snapshot with
  | .object members =>
    .sequence [title, eachMember ((Fields.get? members "state").getD .null) stateLine,
      eachMember ((Fields.get? members "histories").getD .null) history, .line ""]
  | _ => title.andThen (.stop .notObject)

/-- Only the loss of input is announced. -/
def input (enabled : Value) : Printout :=
  if enabled.truthy then .blank else .line "... awaiting primary ..."

def error (text : Value) : Printout :=
  .line ("[ERROR] " ++ text.display)

/-- What a portal of a name prints for a drawing. -/
def draw (name : String) : Drawing → Printout
  | .all snapshot => all name snapshot.toValue
  | .history key entries => history key (.list (entries.map .object))
  | .input enabled => input (.bool enabled)
  | .error text => error (.text text)

end Terminal

end Workbench
