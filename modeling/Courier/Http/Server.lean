import Courier.Banner
import Courier.Graph.Depth
import Courier.Graph.Diagram
import Courier.Http.Body
import Courier.Http.Document
import Courier.Http.Response
import Courier.Http.Route
import Courier.Http.Target
import Courier.Schema.Decl
import Courier.Service.Host
import Courier.Text.Truth

/-!
The HTTP interface of a service: programs can be looked at, messages sent to them, and their results
fetched, deleted or waited for.
-/

namespace Courier.Http

/-- A server: the service behind it, where results are kept, and what it answers when asked for
counters. -/
structure Server where
  host : Host
  store : Option (ResultStore Site)
  metrics : Option Response := none

/-- A client that waits for the result of a message: what was sent to it so far, and its channel while
it is connected. -/
structure Connection where
  id : String
  channel : Option Nat
  body : String

namespace Server

def sharing : Sharing := ⟨"GET, POST, DELETE, OPTIONS", "Content-Type, X-Request-Id"⟩

def absent : Response := .plain 404 "404 page not found\n"

def otherMethods (allowed : List String) : Response :=
  { status := 405, headers := allowed.map fun m => ("Allow", m) }

/-- A result as a document; a result that JSON has no form for leaves the body empty. -/
def resultResponse (r : Result) (s : Service Site) : Service Site × Response :=
  match r.encode with
  | .ok t => (s, { status := 200, contentType := "application/json", body := t ++ "\n" })
  | .error e =>
    (s.logged [⟨.error, "response encode failed", [("err", e.message)]⟩],
      { status := 200, contentType := "application/json" })

def statusOf : Option Reason → Nat
  | some .invalidMessage => 400
  | some .unknownProgram => 404
  | some .invalidPayload => 422
  | some .duplicate => 409
  | some .saturated => 503
  | some .closed => 503
  | some .unavailable => 503
  | none => 500

/-- A pool that takes no more messages is draining. -/
def health (s : Service Site) : Response :=
  let stats := s.pool.stats
  let draining := stats.state = .shuttingDown || stats.state = .terminated
  .json (if draining then 503 else 200) (.object [
    ("status", .text (if draining then "draining" else "ok")),
    ("pool", .object [("state", .text stats.state.name), ("workers", .ofInt stats.workers),
      ("queue_capacity", .ofInt stats.capacity), ("queued", .ofInt stats.queued),
      ("in_flight", .ofInt stats.inFlight)])])

def info : Response :=
  .json 200 (.object [("api_version", .text apiVersion), ("app", .text "weft-http"),
    ("version", .text version)])

def lookup (srv : Server) (name : String) (s : Service Site) (f : Program → Response) : Response :=
  match srv.host.program name s with
  | .ok p => f p
  | .error e =>
    .failure (if e.marks.contains .programNotFound then 404 else 500) "unknown_program" e

/-- What is told about a program. -/
def describe (p : Program) : Response :=
  let input := match p.input with
    | some (d :: ds) =>
      match Schema.toJson (some ((d :: ds).map fun (k, t) => (k, some t))) with
      | .ok j => [("input", j)]
      | .error _ => []
    | _ => []
  .json 200 (.object (("name", .text p.name) ::
    ((if p.version = "" then [] else [("version", .text p.version)]) ++ input ++
      [("nodes", .ofInt ((p.graph.map fun g => g.nodes.length).getD 0)),
        ("depth", .ofInt ((p.graph.map Graph.depth).getD 0))])))

def diagram (p : Program) : Response :=
  .plain 200 ((p.graph.bind fun g => g.diagram? none).getD "")

/-- Sends a result to those who wait for it. -/
def publish : Responder (Outside Site) := fun r o =>
  match r.encode with
  | .error e =>
    (o, .failed ⟨"failed to encode result " ++ r.messageId ++ ": " ++ e.message, []⟩)
  | .ok text =>
    let site := o.shared
    ({ o with shared := { site with streams := site.streams.broadcast r.messageId text } }, .done)

/-- Where the result of a message goes: to the store, to those who wait for it, and to the sender if
that waits too. -/
def responders (srv : Server) (box : Option Nat) : Responder (Outside Site) :=
  Responder.multi [srv.store.map fun st => Outside.lift st.responder, some publish,
    box.map Outside.boxResponder]

def invalid (text : String) : Response := .failure 400 "invalid_request" ⟨text, []⟩

/-- Whether the sender waits; none when the parameter is no truth value. -/
def waits? (t : Target) : Option Bool :=
  match t.parameter? "wait" with
  | none => some false
  | some "" => some false
  | some word => Text.truth? word

/-- The id of a message: the one asked for, or a fresh one. -/
def identify (id : String) (s : Service Site) : String × Service Site :=
  if id = "" then s.share Site.freshId else (id, s)

/-- Takes a message that was read from a request. -/
def accept (srv : Server) (program : String) (b : Body) (wait : Bool) (s : Service Site) :
    Service Site × Response :=
  let (id, s) := identify b.id s
  let (box, o) := s.outside.openBox
  let s := { s with outside := o }
  let respond := srv.responders (if wait then some box else none)
  match srv.host.receive ⟨id, program, b.headers, b.payload⟩ (some respond) s with
  | (s, some refusal) =>
    let reason := (refusal.reason.map Reason.name).getD ""
    let response := Response.failure (statusOf refusal.reason) reason refusal.fault
    (s.logged [⟨.warn, "SendMessage: message rejected", [("message_id", id), ("program", program),
        ("reason", reason), ("err", refusal.fault.message)]⟩],
      if refusal.reason = some .saturated then response.withHeaders [("Retry-After", "1")]
      else response)
  | (s, none) =>
    let accepted := Response.json 202
      (.object [("message_id", .text id), ("program", .text program)])
    if !wait then (s, accepted)
    else
      let s := srv.host.settle s
      let (o, result) := s.outside.takeBox box
      let s := { s with outside := o }
      match result with
      | some r => resultResponse r s
      | none =>
        (s.logged [⟨.debug, "SendMessage: result not ready",
          [("message_id", id), ("err", Fault.deadline.message)]⟩], accepted)

/-- Sends a message to a program. Only the first document of the text is read. -/
def send (srv : Server) (program : String) (t : Target) (text : String) (s : Service Site) :
    Service Site × Response :=
  match (Body.firstJson? text).bind Body.ofJson? with
  | none =>
    (s.logged [⟨.warn, "SendMessage: invalid request body", [("err", "not a message")]⟩],
      invalid "invalid request body: not a message")
  | some b =>
    match waits? t with
    | none => (s, invalid "invalid wait parameter: not a truth value")
    | some wait => srv.accept program b wait s

/-- Whether the description of the interface covers a target; a path that decodes to more segments is
not covered and not checked. -/
def isDescribed (t : Target) : Bool :=
  match Text.split '/' t.path with
  | ["", "v1", "programs", _, "messages"] => true
  | _ => false

/-- Whether a request to send a message is as described. -/
def fits (program contentType : String) (t : Target) (text : String) : Bool :=
  program != "" && (Text.cutChars ';' contentType.toList).1 = "application/json".toList &&
  (match t.parameter? "wait" with
    | some word => (Text.truth? word).isSome
    | none => true) &&
  (match Body.firstJson? text with
    | some j => Body.fits j
    | none => false)

def noStore : Response := .failure 501 "no_store" ⟨"no result store configured", []⟩

def loadResult (srv : Server) (id : String) (s : Service Site) : Service Site × Response :=
  match srv.store with
  | none => (s, noStore)
  | some st =>
    match s.share fun t => let (t, r) := st.load id t; (r, t) with
    | (.ok r, s) => resultResponse r s
    | (.error f, s) =>
      if f.marks.contains .resultNotFound then (s, .failure 404 "not_found" f)
      else (s.logged [⟨.error, "GetResult: load failed", [("message_id", id), ("err", f.message)]⟩],
        .failure 500 "store" f)

def deleteResult (srv : Server) (id : String) (s : Service Site) : Service Site × Response :=
  match srv.store with
  | none => (s, noStore)
  | some st =>
    match s.share fun t => let (t, r) := st.delete id t; (r, t) with
    | (none, s) => (s, { status := 204 })
    | (some f, s) =>
      (s.logged [⟨.error, "DeleteResult: delete failed", [("message_id", id), ("err", f.message)]⟩],
        .failure 500 "store" f)

/-- One event of a stream. -/
def event (name data : String) : String := "event: " ++ name ++ "\ndata: " ++ data ++ "\n\n"

def onStreams {α : Type} (f : Streams → Streams × α) (s : Service Site) : Service Site × α :=
  let (a, s) := s.share fun t => let (streams, a) := f t.streams; (a, { t with streams })
  (s, a)

/-- Ends a connection. -/
def disconnect (c : Connection) (s : Service Site) : Service Site × Connection :=
  match c.channel with
  | none => (s, c)
  | some n =>
    let (s, _) := onStreams (fun t => (t.cancel c.id n, ())) s
    (s, { c with channel := none })

/-- Sends a client its result and ends the connection. -/
def finishWith (text : String) (c : Connection) (s : Service Site) : Service Site × Connection :=
  disconnect { c with body := c.body ++ event "result" text } s

/-- The text of a result that is kept already. -/
def keptText (srv : Server) (id : String) (s : Service Site) : Service Site × Option String :=
  match srv.store with
  | none => (s, none)
  | some st =>
    match s.share fun t => let (t, r) := st.load id t; (r, t) with
    | (.ok r, s) => (s, r.encode.toOption)
    | (.error f, s) =>
      if f.marks.contains .resultNotFound then (s, none)
      else (s.logged [⟨.warn, "SubscribeResult: store lookup failed",
        [("message_id", id), ("err", f.message)]⟩], none)

/-- Subscribes a client to a result. The subscription comes before the look into the store, so that a
result that arrives in between is not missed. -/
def subscribe (srv : Server) (id : String) (s : Service Site) : Service Site × Connection :=
  let (s, n) := onStreams (Streams.subscribe id) s
  let c : Connection := ⟨id, some n, ""⟩
  match srv.keptText id s with
  | (s, some text) => finishWith text c s
  | (s, none) => (s, { c with body := event "ping" "connected" })

/-- Sends a client what has arrived for it. -/
def goOn (c : Connection) (s : Service Site) : Service Site × Connection :=
  match c.channel with
  | none => (s, c)
  | some n =>
    match onStreams (Streams.receive n) s with
    | (s, .text text) => finishWith text c s
    | (s, .closed) => (s, { c with channel := none })
    | (s, .waiting) => (s, c)

/-- What a client is told when its connection cannot be written to bit by bit. -/
def streamingUnsupported : Response := .plain 500 "Streaming not supported\n"

/-- Answers a request that has a route; following events is left to `subscribe`. -/
def serveRoute (srv : Server) (t : Target) (contentType text : String) (s : Service Site) :
    Route → Service Site × Response
  | .document => (s, { status := 200, contentType := "text/yaml", body := document })
  | .page => (s, { status := 200, contentType := "text/html", body := page })
  | .metrics => (s, srv.metrics.getD absent)
  | .health => (s, health s)
  | .info => (s, info)
  | .programs => (s, .json 200 (.ofTexts (srv.host.programs s)))
  | .program name => (s, srv.lookup name s describe)
  | .graph name => (s, srv.lookup name s diagram)
  | .send program =>
    if isDescribed t && !fits program contentType t text then
      (s, invalid "request does not fit the description")
    else srv.send program t text s
  | .result id => srv.loadResult id s
  | .deleteResult id => srv.deleteResult id s
  | .events _ => (s, streamingUnsupported)

/-- Answers a request. -/
def serve (srv : Server) (method : String) (t : Target) (contentType text : String)
    (s : Service Site) : Service Site × Response :=
  if method = "OPTIONS" then (s, sharing.serve method absent)
  else
    let (s, r) := match Route.find srv.metrics.isSome method t.routePath with
      | .route r => srv.serveRoute t contentType text s r
      | .otherMethods allowed => (s, otherMethods allowed)
      | .nothing => (s, absent)
    (s, sharing.serve method r)

end Server
end Courier.Http
