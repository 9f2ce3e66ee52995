import Workbench.Kernel
import Workbench.Schema

namespace Workbench

/-- What a client asks of a session. -/
inductive Request where
  | command (line operator : String)
  | shell (line : String)
  | state
  | tree
  | post (message : Fields Value)
  | events (portal : Option String)

/-- The kinds of requests. -/
inductive Route where
  | command
  | shell
  | state
  | tree
  | post
  | events
  deriving DecidableEq

namespace Schema

/-- The body of a request names its session and holds what the route wants. -/
def request (route : Route) : Value → Checked (String × Request) :=
  model fun members =>
    let session := required members "session_id" text
    match route with
    | .command => (fun session line operator => (session, .command line operator)) <$> session
      <*> required members "line" text <*> optional members "operator" Kernel.defaultOperator text
    | .shell => (fun session line => (session, .shell line)) <$> session <*> required members "line" text
    | .state => (fun session => (session, .state)) <$> session
    | .tree => (fun session => (session, .tree)) <$> session
    | .post => (fun session message => (session, .post message)) <$> session
      <*> required members "message" (fun value => anyMembers value)
    | .events => (fun session portal => (session, .events portal)) <$> session
      <*> optional members "portal" none (nullable text)
where
  anyMembers : Value → Checked (Fields Value)
    | .object members => .valid members
    | _ => fail .notObject

end Schema

end Workbench
