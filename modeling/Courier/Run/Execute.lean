import Courier.Completion.Responder
import Courier.Log.Entry
import Courier.Run.Walk

/-!
Running a request: the walk between a start and a completion event, traced as one span, and the result
it ends in. Every request ends in one result, also when an observer crashes, and hands that on.
-/

namespace Courier

/-- One call to the tracer of a run. -/
inductive SpanCall
  | start (name : String) (attrs : List String)
  | event (name : String) (attrs : List String)
  | error (text : String)
  | status (ok : Bool) (text : String)
  | attributes (attrs : List String)
  | finish
  deriving DecidableEq

/-- How a run ends: with a result and the error behind a failed one, or in a crash. -/
inductive Outcome
  | finished (result : Result) (error : Option WalkError)
  | crashed (panic : Panic)

/-- A run: the context it left, what observers, tracer and log were told, and its outcome. -/
structure Execution where
  context : Context
  events : List Event
  spans : List SpanCall
  logs : List Log.Entry
  outcome : Outcome

namespace Engine

/-- The node a failure is about. -/
def failureNode (c : Context) : WalkError → Int
  | .dispatch n _ _ _ => n
  | .panicked n _ => n
  | _ => c.cursor

/-- What is told about an error; none when it is about a gap in the graph. -/
def failureOf (c : Context) (err : WalkError) : Option Failure :=
  let node := failureNode c err
  let plain : Failure := ⟨err.kind, node, "", "", err.message⟩
  match c.graph with
  | none => some plain
  | some g =>
    match g.slot? node with
    | none => some plain
    | some none => none
    | some (some n) =>
      some { plain with nodeKind := n.kind.name, statement := (g.statementText? n).getD "" }

/-- The result of a walk that ended as it should, or failed as told. -/
def resultOf (c : Context) (failure : Option Failure) : Result where
  messageId := c.message.id
  program := c.programName
  status := if failure.isSome then .failure else .success
  value := c.reply.getD .null
  bindings := some c.bindings
  steps := c.steps
  failure := failure
  completedAt := .zero
  duration := 0

def requestAttrs (c : Context) : List (String × String) :=
  [("message_id", c.message.id), ("program", c.programName)]

def startSpan (c : Context) : SpanCall :=
  .start "weft.request"
    ["weft.message_id=" ++ c.message.id, "weft.program=" ++ c.programName]

def visitSpan (v : Visit) : SpanCall :=
  .event "node" ["weft.node_id=" ++ toString v.place, "weft.node_kind=" ++ v.node.kind.name,
    "weft.step=" ++ toString v.step]

/-- The log of a walk that crashed. -/
def walkLogs (c : Context) : Option WalkError → List Log.Entry
  | some (.panicked n p) =>
    [⟨.error, "node panicked",
      [("message_id", c.message.id), ("node_id", toString n), ("panic", p.text)]⟩]
  | _ => []

/-- The log of how a request ended. -/
def endLog (c : Context) (failure : Option Failure) : Log.Entry :=
  match failure with
  | some f =>
    ⟨.warn, "request failed", requestAttrs c ++
      [("kind", f.kind.text), ("node_id", toString f.nodeId), ("err", f.message)]⟩
  | none => ⟨.debug, "request completed", requestAttrs c ++ [("steps", toString c.steps)]⟩

/-- The end of a span: the error and the status, then the number of steps. -/
def endSpans (c : Context) (failure : Option Failure) : List SpanCall :=
  (match failure with
    | some f => [.error f.message, .status false f.message]
    | none => [.status true ""]) ++
  [.attributes ["weft.steps=" ++ toString c.steps], .finish]

/-- Runs a request from its context to a result. -/
def execute (e : Engine) (interrupts : Interrupts) (c : Context) : Execution :=
  let told := fun evs : List Event => if e.hook.isSome then evs else []
  let started := Event.requestStart c.message.id c.programName
  let startLog : Log.Entry := ⟨.debug, "request started", requestAttrs c⟩
  match e.tell started with
  | some t => ⟨c, told [started], [startSpan c, .finish], [startLog], .crashed (.raised t)⟩
  | none =>
    let w := e.walk interrupts c
    let visits := match c.graph with
      | some g => w.visits.map (visitEvent g c)
      | none => []
    let spans := startSpan c :: w.visits.map visitSpan
    let logs := startLog :: walkLogs c w.stop
    match w.stop.map (failureOf w.context) with
    | some none => ⟨w.context, told (started :: visits), spans ++ [.finish], logs, .crashed .gap⟩
    | ended =>
      let failure := ended.join
      let result := resultOf w.context failure
      let completed := Event.requestComplete c.message.id c.programName result
      ⟨w.context, told (started :: (visits ++ [completed])), spans ++ endSpans w.context failure,
        logs ++ [endLog w.context failure],
        match e.tell completed with
        | some t => .crashed (.raised t)
        | none => .finished result w.stop⟩

end Engine

namespace Execution

/-- The result of a request whose run crashed outside the walk. -/
def crashResult (c : Context) (p : Panic) : Result where
  messageId := c.message.id
  program := c.programName
  status := .failure
  value := .null
  bindings := some c.bindings
  steps := c.steps
  failure := some ⟨.panic, c.cursor, "", "", "panic: " ++ p.text⟩
  completedAt := .zero
  duration := 0

/-- The result a request is completed with: a run that crashed is recovered from. -/
def result (x : Execution) : Result :=
  match x.outcome with
  | .finished r _ => r
  | .crashed p => crashResult x.context p

/-- Everything logged during a run, with what an observer logs about each event. -/
def runLogs (x : Execution) (observed : Event → List Log.Entry) : List Log.Entry :=
  let isEnd : Event → Bool := fun
    | .requestComplete .. => true
    | _ => false
  x.logs.take 1 ++ (x.events.filter fun e => !isEnd e).flatMap observed ++ x.logs.drop 1 ++
  (x.events.filter isEnd).flatMap observed ++
  (match x.outcome with
    | .crashed p =>
      [⟨.error, "request panicked", [("message_id", x.context.message.id), ("panic", p.text)]⟩]
    | .finished .. => [])

/-- What is logged about the error a completion ended in. -/
def completionLogs (x : Execution) : Reply → List Log.Entry
  | .failed f =>
    [⟨.warn, "completion failed", [("message_id", x.context.message.id), ("err", f.message)]⟩]
  | _ => []

end Execution

/-- What the result of a request is handed to: the state afterwards, and how the call ended. -/
abbrev Completer (σ : Type) := Result → σ → σ × Reply

/-- A context with what its result is to be handed to. -/
structure Request (σ : Type) where
  context : Context
  completer : Option (Completer σ)

/-- What a request that ran leaves behind: its run, the state, what was logged, and the text of a crash
that nobody recovered from. -/
structure Served (σ : Type) where
  execution : Execution
  state : σ
  logs : List Log.Entry
  crash : Option String

namespace Request

variable {σ : Type}

/-- Hands the result of a run on, if there is someone to hand it to. That this fails is only logged; a
crash of it goes on. -/
def finish (q : Request σ) (x : Execution) (s : σ) : σ × List Log.Entry × Option String :=
  match q.completer with
  | none => (s, [], none)
  | some complete =>
    let (s, reply) := complete x.result s
    (s, x.completionLogs reply, reply.crash?)

/-- Runs a request, recovers from its crash if there is one, and hands on the result. -/
def run (e : Engine) (observed : Event → List Log.Entry) (interrupts : Interrupts) (q : Request σ)
    (s : σ) : Served σ :=
  let x := e.execute interrupts q.context
  let (s, logs, crash) := q.finish x s
  ⟨x, s, x.runLogs observed ++ logs, crash⟩

end Request
end Courier
