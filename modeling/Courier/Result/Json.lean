import Courier.Json.Reader
import Courier.Json.Writer
import Courier.Result.Basic
import Courier.Text.Fold
import Courier.Value.Json

/-!
Results as JSON documents. Empty bindings, a missing value and a missing failure are left out; reading
takes member names without regard to case and ignores members it does not know.
-/

namespace Courier

namespace Failure

def toJson (f : Failure) : Json :=
  .object ([("kind", .text f.kind.text), ("node_id", Json.ofInt f.nodeId)] ++
    (if f.nodeKind = "" then [] else [("node_kind", .text f.nodeKind)]) ++
    (if f.statement = "" then [] else [("statement", .text f.statement)]) ++
    [("message", .text f.message)])

end Failure

namespace Result

/-- The document of a result; an error when a value in it has no JSON form. -/
def toJson (r : Result) : Except Json.EncodeError Json := do
  let value ← r.value.toJson
  let bindings ← Value.jsonMembers (r.bindings.getD [])
  let completedAt ← Value.timeJson r.completedAt
  .ok (.object ([("message_id", .text r.messageId), ("program", .text r.program),
      ("status", .text r.status.text)] ++
    (if r.value.isNull then [] else [("value", value)]) ++
    (if bindings.isEmpty then [] else [("bindings", .object bindings)]) ++
    [("steps", Json.ofInt r.steps)] ++
    (match r.failure with
      | some f => [("failure", f.toJson)]
      | none => []) ++
    [("completed_at", completedAt), ("duration", Json.ofInt r.duration)]))

/-- The document on one line. -/
def encode (r : Result) : Except Json.EncodeError String := r.toJson.map Json.render

end Result

namespace Json

/-- The known name a member stands for: the same name, else one that differs in case only. -/
def knownName (names : List String) (key : String) : Option String :=
  if key ∈ names then some key else names.find? fun n => Text.foldEq n key

/-- A text member; null leaves what was there. -/
def textOr (old : String) : Json → Option String
  | .text s => some s
  | .null => some old
  | _ => none

/-- The integer of a number without fraction or exponent. -/
def integerOf? (t : String) : Option Int :=
  let (minus, cs) := readMinus t.toList
  if cs.isEmpty || cs.any (fun c => !isDigit c) then none
  else
    let n := Value.digitsValue cs
    let v : Int := if minus.isEmpty then n else -n
    if -9223372036854775808 ≤ v ∧ v ≤ 9223372036854775807 then some v else none

def integerOr (old : Int) : Json → Option Int
  | .number t => integerOf? t
  | .null => some old
  | _ => none

end Json

namespace Failure

def blank : Failure := ⟨.other "", 0, "", "", ""⟩

/-- One member read into a failure. -/
def readMember (f : Failure) (m : String × Json) : Option Failure :=
  match Json.knownName ["kind", "node_id", "node_kind", "statement", "message"] m.1 with
  | some "kind" => (Json.textOr f.kind.text m.2).map fun s => { f with kind := .ofText s }
  | some "node_id" => (Json.integerOr f.nodeId m.2).map fun n => { f with nodeId := n }
  | some "node_kind" => (Json.textOr f.nodeKind m.2).map fun s => { f with nodeKind := s }
  | some "statement" => (Json.textOr f.statement m.2).map fun s => { f with statement := s }
  | some "message" => (Json.textOr f.message m.2).map fun s => { f with message := s }
  | _ => some f

def ofJson? (old : Option Failure) : Json → Option (Option Failure)
  | .null => some none
  | .object ms => (ms.foldlM readMember (old.getD blank)).map some
  | _ => none

end Failure

namespace Result

def names : List String :=
  ["message_id", "program", "status", "value", "bindings", "steps", "failure", "completed_at",
    "duration"]

/-- The bindings of a document, set over those read before. -/
def readBindings (old : Option (Keyed Value)) : Json → Option (Option (Keyed Value))
  | .null => some none
  | .object ms => (Value.ofMembers? ms).map fun vs => some (Keyed.overlay (old.getD []) vs)
  | _ => none

def readInstant (old : Instant) : Json → Option Instant
  | .text s => Instant.ofText? s
  | .null => some old
  | _ => none

/-- One member read into a result. -/
def readMember (r : Result) (m : String × Json) : Option Result :=
  match Json.knownName names m.1 with
  | some "message_id" => (Json.textOr r.messageId m.2).map fun s => { r with messageId := s }
  | some "program" => (Json.textOr r.program m.2).map fun s => { r with program := s }
  | some "status" => (Json.textOr r.status.text m.2).map fun s => { r with status := .ofText s }
  | some "value" => (Value.ofJson? m.2).map fun v => { r with value := v }
  | some "bindings" => (readBindings r.bindings m.2).map fun b => { r with bindings := b }
  | some "steps" => (Json.integerOr r.steps m.2).map fun n => { r with steps := n }
  | some "failure" => (Failure.ofJson? r.failure m.2).map fun f => { r with failure := f }
  | some "completed_at" => (readInstant r.completedAt m.2).map fun t => { r with completedAt := t }
  | some "duration" => (Json.integerOr r.duration m.2).map fun n => { r with duration := n }
  | _ => some r

/-- Reads a result from a document, where null is a result with nothing in it. -/
def ofJson? : Json → Option Result
  | .null => some blank
  | .object ms => ms.foldlM readMember blank
  | _ => none

def decode? (s : String) : Option Result := (Json.parse? s).bind ofJson?

end Result
end Courier
