import Courier.Program.Block
import Courier.Run.Walk

/-! Running a block statement by statement, by recursion on its structure and without a graph.
The state is what a request can show of its run. A statement is entered only if the run is not
called off and the budget is not used up; whatever stops it stops the whole run. -/
namespace Courier

/-- What a run has done so far. -/
structure Env where
  message : Message
  bindings : Keyed Value
  assigned : List String
  reply : Option Value
  steps : Nat

/-- The part of a context that is no place in a graph. -/
def Context.env (c : Context) : Env := ⟨c.message, c.bindings, c.assigned, c.reply, c.steps⟩

namespace Env

def start (m : Message) : Env := ⟨m, [], [], none, 0⟩

/-- The context to evaluate expressions in. -/
def context (s : Env) : Context :=
  ⟨s.message, none, s.bindings, s.assigned, noNode, s.steps, s.reply, false⟩

def bind (s : Env) (name : String) (v : Value) : Except TargetError Env :=
  (s.context.bind name v).map Context.env

end Env

/-- The written form of a statement, without the branches of a conditional. -/
def Stmt.text : Stmt → String
  | .assign target value => target ++ " := " ++ value.text
  | .reply value => "reply " ++ value.text
  | .cond c _ _ => "if " ++ c.text

/-- Why a run stopped before its end, and at which statement. -/
inductive Halt
  | interrupted (by_ : Interruption)
  | budget (number : Nat) (statement : Stmt)
  | fault (number : Nat) (statement : Stmt) (error : VisitError)

/-- A run that stopped: how far it came, and why. -/
structure Stopped where
  env : Env
  halt : Halt

namespace Block

/-- Counts a statement before it runs, if it may run. -/
def enter (look : Interrupts) (limit number : Nat) (stmt : Stmt) (s : Env) : Except Stopped Env :=
  match look s.steps with
  | some i => .error ⟨s, .interrupted i⟩
  | none =>
    if s.steps < limit then .ok { s with steps := s.steps + 1 }
    else .error ⟨s, .budget number stmt⟩

/-- What a statement does, which leaves everything as it was if it fails. -/
def attempt {α : Type} (number : Nat) (stmt : Stmt) (s : Env) (r : Except VisitError α) :
    Except Stopped α :=
  r.mapError fun e => ⟨s, .fault number stmt e⟩

mutual
/-- Runs the statement with number `i`. -/
def runStmt (look : Interrupts) (limit i : Nat) (s : Env) : Stmt → Except Stopped Env
  | .assign target value => do
    let s ← enter look limit i (.assign target value) s
    let v ← attempt i (.assign target value) s ((value.eval s.context).mapError (.assign target))
    attempt i (.assign target value) s ((s.bind target v).mapError .target)
  | .reply value => do
    let s ← enter look limit i (.reply value) s
    let v ← attempt i (.reply value) s ((value.eval s.context).mapError .reply)
    .ok { s with reply := some v }
  | .cond c t e => do
    let s ← enter look limit i (.cond c t e) s
    let v ← attempt i (.cond c t e) s ((c.eval s.context).mapError .condition)
    if v.truthy then runBlock look limit (i + 1) s t
    else runBlock look limit (i + 1 + count t) s e
/-- Runs the statements of a block in turn, the first of which has number `i`. -/
def runBlock (look : Interrupts) (limit i : Nat) (s : Env) : List Stmt → Except Stopped Env
  | [] => .ok s
  | stmt :: b => do
    let s ← runStmt look limit i s stmt
    runBlock look limit (i + stmtCount stmt) s b
end

/-- Runs a block on a message, with a budget of `limit` statements. -/
def interpret (look : Interrupts) (limit : Nat) (b : List Stmt) (m : Message) :
    Except Stopped Env :=
  runBlock look limit 0 (.start m) b

end Block

theorem Expr.applyOp_env (c : Context) (op : Op) (operands : List (Except EvalError Value)) :
    applyOp c.env.context op operands = applyOp c op operands := by
  cases op <;> rfl

mutual
/-- The value of an expression does not depend on the place in the graph. -/
theorem Expr.eval_env (c : Context) (e : Expr) : e.eval c.env.context = e.eval c := by
  cases e with
  | apply op args => rw [eval, eval, evalAll_env c args, applyOp_env]
theorem Expr.evalAll_env (c : Context) (es : List Expr) :
    evalAll c.env.context es = evalAll c es := by
  cases es with
  | nil => rfl
  | cons e es => rw [evalAll, evalAll, eval_env c e, evalAll_env c es]
end

theorem Context.env_bind (c : Context) (name : String) (v : Value) :
    c.env.bind name v = (c.bind name v).map Context.env := by
  unfold Env.bind Context.bind
  cases Context.checkTarget name <;> rfl

end Courier
