import Courier.Banner
import Courier.Http.Response
import Courier.Mcp.Tool

/-!
The protocol between an agent and a server: one JSON-RPC message a line. A message without an id is a
notification and gets no reply.
-/

namespace Courier.Mcp

/-- The outcome of a request. -/
inductive Outcome
  | result (body : Json)
  | error (code : Int) (message : String)

/-- The reply to a request of some id. -/
structure Reply where
  id : Json
  outcome : Outcome

namespace Reply

def toJson (r : Reply) : Json :=
  .object [("jsonrpc", .text "2.0"), ("id", r.id),
    match r.outcome with
    | .result body => ("result", body)
    | .error code message =>
      ("error", .object [("code", .ofInt code), ("message", .text message)])]

end Reply

/-- A tool with the arguments it takes: their names, kinds and descriptions, and those it needs. -/
def toolEntry (name description : String) (args : List (String × String × String))
    (needed : List String) : Json :=
  .object [("name", .text name), ("description", .text description),
    ("inputSchema", .object ([("type", .text "object"),
      ("properties", .object (args.map fun (arg, kind, about) =>
        (arg, .object [("type", .text kind), ("description", .text about)])))] ++
      if needed.isEmpty then [] else [("required", .ofTexts needed)]))]

def tools : List Json := [
  toolEntry "get_result" "Fetch the stored result of a message."
    [("message_id", "string", "Message ID returned by send_message")] ["message_id"],
  toolEntry "list_programs" "List the registered program names." [] [],
  toolEntry "send_message"
    "Send a message to a registered program. By default waits for the result."
    [("program", "string", "Name of the target program"),
      ("payload", "string", "JSON object with the message payload (optional)"),
      ("id", "string", "Message ID; generated when omitted"),
      ("wait", "boolean", "Wait for the result (default true)")] ["program"]]

def resources : List Json := [
  .object [("uri", .text programsUri), ("name", .text "Registered programs"),
    ("mimeType", .text "application/json")]]

def templates : List Json := [
  .object [("uriTemplate", .text graphTemplate), ("name", .text "Program graph"),
    ("description", .text "Mermaid flowchart of a program graph"), ("mimeType", .text "text/plain")]]

/-- The answer to the first request of an agent. -/
def greeting (params : Json) : Json :=
  let asked := params.textAt "protocolVersion"
  .object [("protocolVersion", .text (if asked = "" then "2025-06-18" else asked)),
    ("capabilities", .object [("resources", .object []), ("tools", .object [])]),
    ("serverInfo", .object [("name", .text "weft-mcp"), ("version", .text version)])]

def ToolResult.toJson (r : ToolResult) : Json :=
  .object ([("content", .list [.object [("type", .text "text"), ("text", .text r.text)]])] ++
    (match r.structured with
      | some j => [("structuredContent", j)]
      | none => []) ++
    if r.isError then [("isError", .bool true)] else [])

def Resource.toJson (r : Resource) : Json :=
  .object [("contents", .list [.object [("uri", .text r.uri), ("mimeType", .text r.mimeType),
    ("text", .text r.text)]])]

namespace Server

/-- Carries out a request. -/
def answer (srv : Server) (method : String) (params : Json) (s : Service Site) :
    Service Site × Outcome :=
  let unknown := Outcome.error (-32601)
  match method with
  | "initialize" => (s, .result (greeting params))
  | "ping" => (s, .result (.object []))
  | "tools/list" => (s, .result (.object [("tools", .list tools)]))
  | "resources/list" => (s, .result (.object [("resources", .list resources)]))
  | "resources/templates/list" => (s, .result (.object [("resourceTemplates", .list templates)]))
  | "tools/call" =>
    let tool := params.textAt "name"
    match srv.call? tool (params.get "arguments") s with
    | some (s, r) => (s, .result r.toJson)
    | none => (s, .error (-32602) ("tool '" ++ tool ++ "' not found: tool not found"))
  | "resources/read" =>
    (s, match srv.read (params.textAt "uri") s with
      | .ok r => .result r.toJson
      | .error (.unknown uri) =>
        .error (-32002) ("handler not found for resource URI '" ++ uri ++ "': resource not found")
      | .error (.failed f) => .error (-32603) f.message)
  | "prompts/list" => (s, unknown "prompts not supported")
  | "prompts/get" => (s, unknown "prompts not supported")
  | "logging/setLevel" => (s, unknown "logging not supported")
  | other => (s, unknown ("Method " ++ other ++ " not found"))

/-- The known members of a message; none when one of them is of a wrong kind. -/
def header? (ms : List (String × Json)) : Option (String × String × Json × Bool) :=
  ms.foldlM (fun (version, method, id, isReply) m =>
    match Json.knownName ["jsonrpc", "method", "id", "result"] m.1 with
    | some "jsonrpc" => (Json.textOr version m.2).map (·, method, id, isReply)
    | some "method" => (Json.textOr method m.2).map (version, ·, id, isReply)
    | some "id" => some (version, method, m.2, isReply)
    | some "result" => some (version, method, id, !m.2.isNull)
    | _ => some (version, method, id, isReply)) ("", "", .null, false)

/-- Takes a message: the reply to it, if it is a request. -/
def handle (srv : Server) (line : String) (s : Service Site) : Service Site × Option Reply :=
  let refused (id : Json) (code : Int) (text : String) : Service Site × Option Reply :=
    (s, some ⟨id, .error code text⟩)
  match Json.parse? line with
  | none => refused .null (-32700) "Parse error"
  | some message =>
    let header := match message with
      | .object ms => header? ms
      | .null => some ("", "", .null, false)
      | _ => none
    match header with
    | none => refused .null (-32700) "Failed to parse message"
    | some (version, method, id, isReply) =>
      if version ≠ "2.0" then refused id (-32600) "Invalid JSON-RPC version"
      else if id.isNull || isReply then (s, none)
      else
        let (s, outcome) := srv.answer method (message.get "params") s
        (s, some ⟨id, outcome⟩)

/-- What pages of other sites may do when the server is reached over HTTP. -/
def sharing : Http.Sharing :=
  ⟨"GET, POST, OPTIONS", "Content-Type, Authorization, X-Requested-With"⟩

end Server
end Courier.Mcp
