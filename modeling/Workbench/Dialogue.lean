import Workbench.Value.Basic

namespace Workbench

/-- A request to a server: where it goes and the JSON text that it carries. -/
structure WebRequest where
  url : String
  body : String
  deriving DecidableEq

/-- How a dialogue ends: well, with an exit code, or for want of answers. -/
inductive Ending where
  | done
  | exit (code : Nat)
  | broken (reason : String)
  deriving DecidableEq

/-- A program that asks at the keyboard, sends requests and prints lines. An answer or a reply that does
not come is the reason why. -/
inductive Dialogue where
  | ask (prompt : String) (next : Except String String → Dialogue)
  | send (request : WebRequest) (next : Except String Value → Dialogue)
  | say (line : String) (next : Dialogue)
  | stop (ending : Ending)

/-- What passed in a dialogue. -/
structure Transcript where
  prompts : List String
  requests : List WebRequest
  printed : String
  ending : Ending
  deriving DecidableEq

namespace Dialogue

def noAnswers : String := "no more answers"

def noReplies : String := "no more responses"

/-- Hold a dialogue with given answers and replies, in turn. -/
def play : Dialogue → List String → List (Except String Value) → Transcript
  | ask prompt next, answers, replies =>
    let rest := play (next (match answers.head? with
      | some answer => .ok answer
      | none => .error noAnswers)) answers.tail replies
    { rest with prompts := prompt :: rest.prompts }
  | send request next, answers, replies =>
    let rest := play (next (replies.head?.getD (.error noReplies))) answers replies.tail
    { rest with requests := request :: rest.requests }
  | say line next, answers, replies =>
    let rest := play next answers replies
    { rest with printed := line ++ "\n" ++ rest.printed }
  | stop ending, _, _ => ⟨[], [], "", ending⟩

/-- Say lines one after another. -/
def sayAll (lines : List String) (next : Dialogue) : Dialogue :=
  lines.foldr say next

end Dialogue

end Workbench
