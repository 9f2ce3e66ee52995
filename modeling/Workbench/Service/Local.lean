import Workbench.Courier
import Workbench.Service.Basic

namespace Workbench

/-- The route that a path asks for. -/
def Route.ofPath? : String → Option Route
  | "/command" => some .command
  | "/shell" => some .shell
  | "/state" => some .state
  | "/tree" => some .tree
  | "/channel/post" => some .post
  | "/channel/events" => some .events
  | _ => none

/-- The status that tells a client why it is not served. -/
def ServiceFault.status : ServiceFault → String
  | .malformed _ => "422: Unprocessable Entity"
  | .badMessage _ => "400: Bad Request"
  | .session _ | .overflow | .unwritable _ | .undecodable _ => "500: Internal Server Error"

namespace Service

def refusal (status : String) : String := "HTTP Error " ++ status

/-- Serve a web request within the process, and run the jobs that it leaves. A request that is not served
is answered by its status. -/
def reply (service : Service) (request : WebRequest) : Except String Value × Service :=
  let route := Route.ofPath? (String.ofList (request.url.toList.drop Courier.server.length))
  match route, Json.parse request.body with
  | none, _ => (.error (refusal "404: Not Found"), service)
  | some _, .error _ => (.error (refusal "422: Unprocessable Entity"), service)
  | some route, .ok body =>
    let (answer, service) := service.handle route body
    (answer.mapError fun fault => refusal fault.status, service.settle)

end Service

end Workbench
