import Courier.Time.Instant
import Courier.Value.Basic

/-!
Results: the outcome of one message, delivered once. Stored results may come from elsewhere, so the
words of a status and of a failure kind are open.
-/

namespace Courier

inductive Status
  | success | failure
  | other (word : String)
  deriving DecidableEq

namespace Status

def text : Status → String
  | .success => "success"
  | .failure => "failure"
  | .other w => w

def ofText (s : String) : Status :=
  if s = "success" then .success else if s = "failure" then .failure else .other s

end Status

/-- Why a run failed. -/
inductive FailureKind
  | dispatch | panic | stepLimit | cancelled | graph
  | other (word : String)
  deriving DecidableEq

namespace FailureKind

def text : FailureKind → String
  | .dispatch => "dispatch"
  | .panic => "panic"
  | .stepLimit => "step_limit"
  | .cancelled => "cancelled"
  | .graph => "graph"
  | .other w => w

def ofText (s : String) : FailureKind :=
  if s = "dispatch" then .dispatch
  else if s = "panic" then .panic
  else if s = "step_limit" then .stepLimit
  else if s = "cancelled" then .cancelled
  else if s = "graph" then .graph
  else .other s

end FailureKind

/-- What is told about a failed run: where it stopped and why. -/
structure Failure where
  kind : FailureKind
  nodeId : Int
  nodeKind : String
  statement : String
  message : String
  deriving DecidableEq

/-- Times are stamped by whoever drives a run; the run itself reads no clock. -/
structure Result where
  messageId : String
  program : String
  status : Status
  value : Value
  bindings : Option (Keyed Value)
  steps : Int
  failure : Option Failure
  completedAt : Instant
  duration : Int

namespace Result

def isOk (r : Result) : Bool := r.status = .success

/-- A result with nothing in it. -/
def blank : Result := ⟨"", "", .other "", .null, none, 0, none, Instant.zero, 0⟩

instance : Inhabited Result := ⟨blank⟩

end Result
end Courier
