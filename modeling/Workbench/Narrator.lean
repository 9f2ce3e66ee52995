import Workbench.Chat
import Workbench.Json.Parser
import Workbench.Text.Cut

namespace Workbench

/-- One message of a request to the language model. -/
structure ModelMessage where
  role : String
  content : String
  deriving DecidableEq

/-- A request to the language model. -/
structure ModelRequest where
  model : String
  messages : List ModelMessage
  wantsJson : Bool
  maxTokens : Int
  deriving DecidableEq

def ModelMessage.toValue (message : ModelMessage) : Value :=
  .object [("role", .text message.role), ("content", .text message.content)]

/-- A request as it is sent. The form of the answer is only told where it is wanted. -/
def ModelRequest.toValue (request : ModelRequest) : Value :=
  .object ([
    ("model", .text request.model),
    ("input", .list (request.messages.map ModelMessage.toValue)),
    ("max_output_tokens", .int request.maxTokens)] ++
    if request.wantsJson then
      [("text", .object [("format", .object [("type", .text "json_object")])])]
    else [])

/-- A piece of a model's output; only pieces of kind `output_text` are read, and what they hold should be
a text. -/
structure OutputPart where
  kind : Option String
  text : Option Value
  deriving DecidableEq

/-- An item of a model's output; only items of kind `message` are read. -/
structure OutputItem where
  kind : Option String
  parts : Option (List OutputPart)
  deriving DecidableEq

/-- What a model does with a request. -/
inductive ModelReply where
  | failure (text : String)
  | output (items : List OutputItem)
  deriving DecidableEq

/-- Why no answer comes from a model. -/
inductive NarratorFault where
  | notEntry (kind : String)
  | roleNotWord (kind : String)
  | partsNotList (kind : String)
  | textNotText (position : Nat) (kind : String)
  | refused (text : String)
  | itemWithoutContent
  | partWithoutText
  | notJson (fault : Json.SyntaxFault)
  | incomplete
  deriving DecidableEq

def NarratorFault.message : NarratorFault → String
  | .notEntry kind => "'" ++ kind ++ "' object has no attribute 'get'"
  | .roleNotWord kind => "unhashable type: '" ++ kind ++ "'"
  | .partsNotList kind => "'" ++ kind ++ "' object is not iterable"
  | .textNotText position kind =>
    "sequence item " ++ toString position ++ ": expected str instance, " ++ kind ++ " found"
  | .refused text => text
  | .itemWithoutContent => "A message of the model has no content."
  | .partWithoutText => "A piece of the model's message has no text."
  | .notJson fault =>
    if fault.reason.isFormal then "Invalid JSON response from kernel model: " ++ fault.message else fault.message
  | .incomplete => "Invalid or incomplete JSON response from kernel model."

/-- Values that must all be texts, the first of them at a position. -/
def textsFrom (position : Nat) : List Value → Except NarratorFault (List String)
  | [] => .ok []
  | .text text :: rest => (textsFrom (position + 1) rest).map (text :: ·)
  | other :: _ => .error (.textNotText position other.kindName)

namespace ModelMessage

/-- What a part of a chat entry says; a part that is no object says nothing. -/
def partText? : Value → Option Value
  | .object members => some ((Fields.get? members "text").getD (.text ""))
  | _ => none

/-- The parts of a chat entry as one text. Parts that can be gone through but hold no objects are empty. -/
def contentOf (parts : Value) : Except NarratorFault String :=
  if parts.truthy then
    match parts with
    | .list items => (textsFrom 0 (items.filterMap partText?)).map (Text.join " ")
    | .text _ | .bytes _ | .object _ => .ok ""
    | other => .error (.partsNotList other.kindName)
  else .ok ""

/-- The role under which a model is told an entry of the chat; local entries are not told. -/
def roleOf : Value → Except NarratorFault (Option String)
  | .text "user" => .ok (some "user")
  | .text "model" => .ok (some "assistant")
  | .list _ => .error (.roleNotWord "list")
  | .object _ => .error (.roleNotWord "dict")
  | _ => .ok none

/-- The messages that tell a chat history. -/
def ofHistory : List Value → Except NarratorFault (List ModelMessage)
  | [] => .ok []
  | .object members :: rest =>
    match roleOf ((Fields.get? members "role").getD .null) with
    | .error fault => .error fault
    | .ok none => ofHistory rest
    | .ok (some role) =>
      match contentOf ((Fields.get? members "parts").getD .null) with
      | .error fault => .error fault
      | .ok content => (ofHistory rest).map (⟨role, content⟩ :: ·)
  | other :: _ => .error (.notEntry other.kindName)

end ModelMessage

/-- A language model behind a script of replies, with the requests that it was sent. -/
structure Narrator where
  model : String
  maxTokens : Int
  replies : List ModelReply
  requests : List ModelRequest
  deriving DecidableEq

namespace Narrator

def defaultModel : String := "gpt-4o-mini"

def defaultMaxTokens : Int := 2048

/-- What the model is told about the form of its answer. -/
def jsonContract : String :=
  "Respond with a single JSON object:\n" ++
    "\x7b\"narrative\": \"<text shown to the operator>\", \"newState\": \x7b\"<metric id>\": <value>, ...\x7d\x7d\n" ++
    "Only include metric ids that already exist in the state string."

/-- What the pieces of an output item hold. -/
def itemTexts (item : OutputItem) : Except NarratorFault (List Value) :=
  if item.kind = some "message" then
    match item.parts with
    | none => .error .itemWithoutContent
    | some parts => (parts.filter fun part => part.kind = some "output_text").mapM fun part =>
      match part.text with
      | some text => .ok text
      | none => .error .partWithoutText
  else .ok []

/-- The text of an output, without the white space around it. -/
def outputText (items : List OutputItem) : Except NarratorFault String := do
  let texts ← textsFrom 0 (← items.mapM itemTexts).flatten
  return Text.strip (Text.join " " texts)

/-- Send a request and take the text of the next reply. A used up script refuses. -/
def ask (narrator : Narrator) (messages : List ModelMessage) (wantsJson : Bool) :
    Except NarratorFault String × Narrator :=
  let request : ModelRequest := ⟨narrator.model, messages, wantsJson, narrator.maxTokens⟩
  let sent := { narrator with replies := narrator.replies.tail, requests := narrator.requests ++ [request] }
  match narrator.replies with
  | [] => (.error (.refused "script exhausted"), sent)
  | .failure text :: _ => (.error (.refused text), sent)
  | .output items :: _ => (outputText items, sent)

/-- A model's proposal: a story and new values for metrics, within the object that it answered. -/
structure Proposal where
  members : Fields Value
  narrative : Value
  newState : Fields Value

/-- Read a proposal. The story must be there and count as true; the new state must be an object. -/
def proposalOf (text : String) : Except NarratorFault Proposal :=
  match Json.parse text with
  | .error fault => .error (.notJson fault)
  | .ok (.object members) =>
    match Fields.get? members "narrative", Fields.get? members "newState" with
    | some narrative, some (.object newState) =>
      if narrative.truthy then .ok ⟨members, narrative, newState⟩ else .error .incomplete
    | _, _ => .error .incomplete
  | .ok _ => .error .incomplete

/-- Let the model interpret a line that no command matches. -/
def interpret (narrator : Narrator) (system : String) (history : List Value) :
    Except NarratorFault Proposal × Narrator :=
  match ModelMessage.ofHistory history with
  | .error fault => (.error fault, narrator)
  | .ok turns =>
    let told : ModelMessage := ⟨"system", Text.strip system ++ "\n\n" ++ jsonContract⟩
    let (answer, narrator) := narrator.ask (told :: turns) true
    (answer.bind proposalOf, narrator)

/-- Let the model think aloud for a portal. -/
def monologue (narrator : Narrator) (system prompt : String) : Except NarratorFault String × Narrator :=
  let prompt := if prompt = "" then "(no recorded user action)" else prompt
  narrator.ask [⟨"system", Text.strip system⟩, ⟨"user", prompt⟩] false

end Narrator

end Workbench
