/-!
The causes a caller can ask an error about, whatever layers of explanation are wrapped around it.
-/

namespace Courier

/-- What an error is, in the order in which its marks are listed. -/
inductive Mark
  | invalidGraph | invalidTarget | unboundVariable | missingField | invalidExpr | nodeNotFound
  | stepLimit | programNotFound | resultNotFound | alreadyCompleted | rejected | duplicate
  | saturated | poolClosed | canceled | deadline | notExist
  deriving DecidableEq

namespace Mark

def all : List Mark :=
  [invalidGraph, invalidTarget, unboundVariable, missingField, invalidExpr, nodeNotFound,
    stepLimit, programNotFound, resultNotFound, alreadyCompleted, rejected, duplicate,
    saturated, poolClosed, canceled, deadline, notExist]

def name : Mark → String
  | .invalidGraph => "invalid_graph"
  | .invalidTarget => "invalid_target"
  | .unboundVariable => "unbound_variable"
  | .missingField => "missing_field"
  | .invalidExpr => "invalid_expr"
  | .nodeNotFound => "node_not_found"
  | .stepLimit => "step_limit"
  | .programNotFound => "program_not_found"
  | .resultNotFound => "result_not_found"
  | .alreadyCompleted => "already_completed"
  | .rejected => "rejected"
  | .duplicate => "duplicate"
  | .saturated => "saturated"
  | .poolClosed => "pool_closed"
  | .canceled => "canceled"
  | .deadline => "deadline"
  | .notExist => "not_exist"

/-- The marks of a list in their fixed order, each once. -/
def ordered (ms : List Mark) : List Mark := all.filter fun m => ms.contains m

end Mark

/-- An error whose cause lies outside the part that reports it: its text and its marks. -/
structure Fault where
  message : String
  marks : List Mark := []
  deriving DecidableEq, Inhabited

namespace Fault

/-- The same fault with an explanation in front. -/
def within (before : String) (f : Fault) : Fault := { f with message := before ++ f.message }

def canceled : Fault := ⟨"context canceled", [.canceled]⟩

def deadline : Fault := ⟨"context deadline exceeded", [.deadline]⟩

end Fault
end Courier
