import Workbench.Value.Basic

namespace Workbench

/-- Who speaks in a chat history. -/
inductive Role where
  | user
  | model
  | error
  deriving DecidableEq

def Role.word : Role → String
  | .user => "user"
  | .model => "model"
  | .error => "error"

/-- One entry of a chat history. The text is absent where no line was given. -/
structure ChatEntry where
  role : Role
  text : Option String
  deriving DecidableEq

namespace ChatEntry

def of (role : Role) (text : String) : ChatEntry := ⟨role, some text⟩

/-- An entry as an object: the text stands in a list of parts. -/
def members (entry : ChatEntry) : Fields Value := [
  ("role", .text entry.role.word),
  ("parts", .list [.object [("text", .ofText? entry.text)]])]

def toValue (entry : ChatEntry) : Value := .object entry.members

end ChatEntry

end Workbench
