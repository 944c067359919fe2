import Courier.Graph.Diagram
import Courier.Json.Access
import Courier.Result.Json
import Courier.Service.Host

/-!
The tools and resources through which an agent uses a service.
-/

namespace Courier.Mcp

/-- A server: the service behind it, and where results are kept. -/
structure Server where
  host : Host
  store : Option (ResultStore Site)

/-- What a tool says: texts, whether they tell of an error, and the structured form if there is one. -/
structure ToolResult where
  text : String
  isError : Bool := false
  structured : Option Json := none

def ToolResult.failure (text : String) : ToolResult := { text, isError := true }

/-- The arguments of the tool that sends messages. -/
structure SendArgs where
  program : String := ""
  id : String := ""
  payload : String := ""
  wait : Option Bool := none

namespace SendArgs

def readMember (a : SendArgs) (m : String × Json) : Option SendArgs :=
  match Json.knownName ["program", "id", "payload", "wait"] m.1 with
  | some "program" => (Json.textOr a.program m.2).map fun s => { a with program := s }
  | some "id" => (Json.textOr a.id m.2).map fun s => { a with id := s }
  | some "payload" => (Json.textOr a.payload m.2).map fun s => { a with payload := s }
  | some "wait" =>
    match m.2 with
    | .bool b => some { a with wait := some b }
    | .null => some { a with wait := none }
    | _ => none
  | _ => some a

def ofJson? : Json → Option SendArgs
  | .null => some {}
  | .object ms => (Keyed.ofList ms).foldlM readMember {}
  | _ => none

end SendArgs

/-- The payload of a message from its text; no text is no payload. -/
def payloadOf? (text : String) : Option (Option (Keyed Value)) :=
  if text = "" then some none
  else (Json.parse? text).bind (Result.readBindings none)

namespace Server

/-- What the tool that sends messages answers. -/
def sendReply (id program : String) (result : Option Result) : ToolResult :=
  let members := [("message_id", Json.text id), ("program", .text program),
    ("completed", .bool result.isSome)]
  let whole : Except Json.EncodeError Json := match result with
    | none => .ok (Json.object members)
    | some r => r.toJson.map fun j => .object (members ++ [("result", j)])
  match whole with
  | .ok j => { text := j.render, structured := some j }
  | .error e => { text := "Error serializing structured content: " ++ e.message }

/-- Sends a message, and waits for its result unless asked not to. -/
def sendMessage (srv : Server) (a : SendArgs) (s : Service Site) : Service Site × ToolResult :=
  let failed (text : String) : ToolResult := .failure ("tool execution failed: " ++ text)
  if a.program = "" then (s, failed "program is required")
  else
    let (id, s) := if a.id = "" then s.share Site.freshId else (a.id, s)
    match payloadOf? a.payload with
    | none => (s, failed "payload must be a JSON object: not an object")
    | some payload =>
      let wait := a.wait != some false
      let (box, o) := s.outside.openBox
      let s := { s with outside := o }
      let respond := Responder.multi [srv.store.map fun st => Outside.lift st.responder,
        if wait then some (Outside.boxResponder box) else none]
      match srv.host.receive ⟨id, a.program, none, payload⟩ (some respond) s with
      | (s, some refusal) =>
        (s.logged [⟨.warn, "MCP send_message: rejected", [("message_id", id),
          ("program", a.program), ("err", refusal.fault.message)]⟩], failed refusal.fault.message)
      | (s, none) =>
        if !wait then (s, sendReply id a.program none)
        else
          let s := srv.host.settle s
          let (o, result) := s.outside.takeBox box
          let s := { s with outside := o }
          let logs := match result with
            | some _ => []
            | none => [⟨.debug, "MCP send_message: result not ready",
                [("message_id", id), ("err", Fault.deadline.message)]⟩]
          (s.logged logs, sendReply id a.program result)

/-- The names of the programs as a document. -/
def programsText (srv : Server) (s : Service Site) : String :=
  (Json.ofTexts (srv.host.programs s)).render

/-- Fetches a result that is kept. -/
def getResult (srv : Server) (args : Json) (s : Service Site) : Service Site × ToolResult :=
  match srv.store with
  | none => (s, .failure "no result store configured")
  | some st =>
    match args.member? "message_id" with
    | none => (s, .failure "required argument \"message_id\" not found")
    | some (.text id) =>
      match s.share fun t => let (t, r) := st.load id t; (r, t) with
      | (.ok r, s) => (s, { text := (r.encode.toOption).getD "" })
      | (.error f, s) => (s, .failure ("load failed: " ++ f.message))
    | some _ => (s, .failure "argument \"message_id\" is not a string")

/-- Calls a tool; none when there is no tool of that name. -/
def call? (srv : Server) (tool : String) (args : Json) (s : Service Site) :
    Option (Service Site × ToolResult) :=
  if tool = "send_message" then
    some (match SendArgs.ofJson? args with
      | some a => srv.sendMessage a s
      | none => (s, .failure "failed to bind arguments: not the arguments of the tool"))
  else if tool = "list_programs" then some (s, { text := srv.programsText s })
  else if tool = "get_result" then some (srv.getResult args s)
  else none

end Server

/-- The names of the tools. -/
def toolNames : List String := ["get_result", "list_programs", "send_message"]

/-- A resource that was read. -/
structure Resource where
  uri : String
  mimeType : String
  text : String

/-- Why a resource cannot be read. -/
inductive ReadError
  | unknown (uri : String)
  | failed (fault : Fault)

def programsUri : String := "weft://programs"

def graphTemplate : String := "weft://programs/\x7bname\x7d/graph"

/-- Characters a name in an address is made of. -/
def isNameChar (c : Char) : Bool :=
  c.isAlphanum || c = '-' || c = '.' || c = '_' || c = '~'

/-- Whether a text is made of plain characters and escapes. -/
def isName : List Char → Bool
  | [] => true
  | '%' :: a :: b :: rest => (Json.hexValue a).isSome && (Json.hexValue b).isSome && isName rest
  | c :: rest => isNameChar c && isName rest

/-- The name in the address of a program's graph. -/
def graphName? (uri : String) : Option String :=
  match Text.afterStart? (programsUri ++ "/").toList uri.toList with
  | none => none
  | some rest =>
    match Text.afterStart? "/graph".toList.reverse rest.reverse with
    | some name => if isName name.reverse then some (String.ofList name.reverse) else none
    | none => none

/-- Reads a resource. A name in an address is taken as it stands. -/
def Server.read (srv : Server) (uri : String) (s : Service Site) : Except ReadError Resource :=
  if uri = programsUri then .ok ⟨uri, "application/json", srv.programsText s⟩
  else
    match graphName? uri with
    | none => .error (.unknown uri)
    | some name =>
      if name = "" then .error (.failed ⟨"invalid program graph uri " ++ Text.quote uri, []⟩)
      else
        match srv.host.program name s with
        | .ok p => .ok ⟨uri, "text/plain", (p.graph.bind fun g => g.diagram? none).getD ""⟩
        | .error f => .error (.failed f)

end Courier.Mcp
