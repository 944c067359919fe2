import Courier.Dump.Value
import Courier.Message
import Courier.Result.Json
import Courier.Run.Context

/-!
Dumps of messages, results and the state of a request as JSON.
-/

namespace Courier

open Json (textPair intPair boolPair textsPair)

namespace Failure

def dump (f : Failure) : Json :=
  .object [textPair "kind" f.kind.text, intPair "node_id" f.nodeId,
    textPair "node_kind" f.nodeKind, textPair "statement" f.statement, textPair "message" f.message]

def ofDump? (j : Json) : Option Failure :=
  if j.isNull then none
  else some ⟨.ofText (j.textAt "kind"), j.intAt "node_id", j.textAt "node_kind",
    j.textAt "statement", j.textAt "message"⟩

end Failure

namespace Result

/-- The members of a dumped result, times apart. -/
def dump (r : Result) : List (String × Json) :=
  [textPair "message_id" r.messageId, textPair "program" r.program,
    textPair "status" r.status.text, ("value", r.value.dump),
    ("bindings", .ofOption (fun b => (Value.record b).dump) r.bindings), intPair "steps" r.steps,
    boolPair "ok" r.isOk] ++
  match r.failure with
  | some f => [("failure", f.dump)]
  | none => []

def ofDump (j : Json) : Result where
  messageId := j.textAt "message_id"
  program := j.textAt "program"
  status := .ofText (j.textAt "status")
  value := .ofDump (j.get "value")
  bindings := Value.recordOfDump? (j.get "bindings")
  steps := j.intAt "steps"
  failure := Failure.ofDump? (j.get "failure")
  completedAt := (Instant.ofText? (j.textAt "completed_at")).getD .zero
  duration := j.intAt "duration"

end Result

namespace Message

def ofDump (j : Json) : Message where
  id := j.textAt "id"
  program := j.textAt "program"
  headers :=
    if (j.get "headers").isNull then none
    else some (Keyed.ofList ((j.membersAt "headers").map fun (k, v) => (k, v.asText)))
  payload := Value.recordOfDump? (j.get "payload")

end Message

namespace Context

def dump (c : Context) : List (String × Json) :=
  [intPair "cursor" c.cursor, intPair "steps" c.steps, boolPair "decision" c.decision,
    ("reply", (c.reply.getD .null).dump), boolPair "replied" c.reply.isSome,
    textsPair "assigned" c.assigned, ("bindings", (Value.record c.bindings).dump)]

end Context
end Courier
