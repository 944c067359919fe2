import Courier.Text.Blank

/-!
The routes of the HTTP interface.
-/

namespace Courier.Http

/-- What a request asks for. -/
inductive Route
  | document | page | metrics | health | info | programs
  | program (name : String)
  | graph (name : String)
  | send (program : String)
  | result (id : String)
  | deleteResult (id : String)
  | events (id : String)
  deriving DecidableEq

/-- The outcome of looking for a route: the path may be known with other methods only. -/
inductive Found
  | route (r : Route)
  | otherMethods (allowed : List String)
  | nothing
  deriving DecidableEq

namespace Route

/-- Methods any route could be for. -/
def knownMethods : List String :=
  ["CONNECT", "DELETE", "GET", "HEAD", "OPTIONS", "PATCH", "POST", "PUT", "TRACE"]

/-- The routes of a path below `/v1`, by method. A name at the end of a path is not empty. -/
def versioned : List String → List (String × Route)
  | ["programs"] => [("GET", .programs)]
  | ["programs", name] => if name = "" then [] else [("GET", .program name)]
  | ["programs", name, "graph"] => [("GET", .graph name)]
  | ["programs", name, "messages"] => [("POST", .send name)]
  | ["results", id] =>
    if id = "" then [] else [("DELETE", .deleteResult id), ("GET", .result id)]
  | ["results", id, "events"] => [("GET", .events id)]
  | _ => []

/-- The routes of a path, by method. -/
def ofPath (hasMetrics : Bool) (path : String) : List (String × Route) :=
  match path with
  | "/openapi.yaml" => [("GET", .document)]
  | "/swagger" => [("GET", .page)]
  | "/metrics" => if hasMetrics then knownMethods.map fun m => (m, .metrics) else []
  | "/healthz" => [("GET", .health)]
  | "/info" => [("GET", .info)]
  | _ =>
    match Text.split '/' path with
    | "" :: "v1" :: rest => versioned rest
    | _ => []

/-- The route of a request. A method that no route could be for is refused whatever the path. -/
def find (hasMetrics : Bool) (method path : String) : Found :=
  if !knownMethods.contains method then .otherMethods []
  else
    match ofPath hasMetrics path with
    | [] => .nothing
    | routes =>
      match routes.find? fun r => r.1 = method with
      | some (_, r) => .route r
      | none => .otherMethods (routes.map Prod.fst)

end Route
end Courier.Http
