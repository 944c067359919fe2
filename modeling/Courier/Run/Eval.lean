import Courier.Run.Context
import Courier.Value.Compare

/-!
The value of an expression in a context.
-/

namespace Courier

/-- Why an expression has no value. -/
inductive EvalError
  | unbound (name : String)
  | missing (path : String)
  | arity (op : String) (wanted got : Nat)
  | empty
  | unknown (op : String)
  deriving DecidableEq

namespace EvalError

def message : EvalError → String
  | .unbound name => "unbound variable: " ++ name
  | .missing path => "missing payload field: " ++ path
  | .arity op wanted got =>
    "invalid expression: " ++ op ++ " takes " ++ toString wanted ++
      (if wanted = 1 then " operand, got " else " operands, got ") ++ toString got
  | .empty => "invalid expression: empty expression"
  | .unknown op => "invalid expression: unknown op " ++ Text.quote op

def mark : EvalError → Mark
  | .unbound _ => .unboundVariable
  | .missing _ => .missingField
  | _ => .invalidExpr

def fault (e : EvalError) : Fault := ⟨e.message, [e.mark]⟩

end EvalError

namespace Expr

/-- The value of an operator whose operands are evaluated on demand, from left to right. -/
def applyOp (c : Context) (op : Op) (operands : List (Except EvalError Value)) :
    Except EvalError Value :=
  match op with
  | .lit v => .ok v
  | .var name =>
    match c.lookup name with
    | some v => .ok v
    | none => .error (.unbound name)
  | .field path =>
    match c.message.lookup path with
    | some v => .ok v
    | none => .error (.missing path)
  | .eq =>
    match operands with
    | [a, b] => do
      let a ← a
      let b ← b
      .ok (.bool (a.equal b))
    | os => .error (.arity "eq" 2 os.length)
  | .not =>
    match operands with
    | [a] => a.map fun v => .bool !v.truthy
    | os => .error (.arity "not" 1 os.length)
  | .empty => .error .empty
  | .unknown name => .error (.unknown name)

mutual
/-- The value of an expression, or the first thing that is wrong with it. -/
def eval (c : Context) : Expr → Except EvalError Value
  | .apply op args => applyOp c op (evalAll c args)
def evalAll (c : Context) : List Expr → List (Except EvalError Value)
  | [] => []
  | e :: es => e.eval c :: evalAll c es
end

end Expr
end Courier
