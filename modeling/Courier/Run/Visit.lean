import Courier.Run.Eval

/-!
Running one node: what it does to the context, and the ways in which that can fail.
-/

namespace Courier

/-- Why a node could not run. -/
inductive VisitError
  | noGraph
  | noStatement (id : Int)
  | wrongKind (node : NodeKind) (statement : StatementKind)
  | assign (target : String) (error : EvalError)
  | target (error : TargetError)
  | reply (error : EvalError)
  | condition (error : EvalError)
  | foreign (fault : Fault)
  deriving DecidableEq

namespace VisitError

def message : VisitError → String
  | .noGraph => "invalid graph: no graph"
  | .noStatement id => "invalid graph: statement " ++ toString id ++ " not found"
  | .wrongKind n s => "invalid graph: " ++ n.name ++ " node attached to " ++ s.name ++ " statement"
  | .assign t e => "assign " ++ t ++ ": " ++ e.message
  | .target e => e.message
  | .reply e => "reply: " ++ e.message
  | .condition e => "condition: " ++ e.message
  | .foreign f => f.message

def marks : VisitError → List Mark
  | .noGraph => [.invalidGraph]
  | .noStatement _ => [.invalidGraph]
  | .wrongKind .. => [.invalidGraph]
  | .assign _ e => [e.mark]
  | .target _ => [.invalidTarget]
  | .reply e => [e.mark]
  | .condition e => [e.mark]
  | .foreign f => f.marks

def fault (e : VisitError) : Fault := ⟨e.message, e.marks⟩

end VisitError

/-- How a visit ends. -/
inductive Verdict
  | done
  | failed (error : VisitError)
  | panicked (text : String)

/-- What runs a node: the context afterwards, and how the visit ended. -/
abbrev Visitor := Node → Context → Context × Verdict

namespace Visitor

/-- The kind of statement a node of a kind belongs to. -/
def wantedKind : NodeKind → StatementKind
  | .assign => .assign
  | .reply => .reply
  | .branch => .cond

/-- The statement of a node, when it is there and of the right kind. -/
def statementOf (c : Context) (n : Node) : Except VisitError Statement :=
  match c.graph with
  | none => .error .noGraph
  | some g =>
    match g.statement? n.parent with
    | none => .error (.noStatement n.parent)
    | some s =>
      if s.kind = wantedKind n.kind then .ok s else .error (.wrongKind n.kind s.kind)

/-- The context after a node has run. -/
def visit (n : Node) (c : Context) : Except VisitError Context := do
  let s ← statementOf c n
  match n.kind with
  | .assign =>
    let v ← (s.value.eval c).mapError (.assign s.target)
    (c.bind s.target v).mapError .target
  | .reply =>
    let v ← (s.value.eval c).mapError .reply
    .ok { c with reply := some v }
  | .branch =>
    let v ← (s.cond.eval c).mapError .condition
    .ok { c with decision := v.truthy }

/-- The visitor of ordinary runs. A node that fails leaves the context as it was. -/
def standard : Visitor := fun n c =>
  match visit n c with
  | .ok c => (c, .done)
  | .error e => (c, .failed e)

end Visitor
end Courier
