import Courier.Result.Basic
import Courier.Run.Visit

/-!
The walk through a graph: node after node until one has no successor, the step budget is used up, the
run is interrupted, or a node fails. Before each node the interruption is looked at first, then whether
the node exists, then whether the steps that were counted so far use up the budget.
-/

namespace Courier

/-- Why a run is called off from outside. -/
inductive Interruption
  | canceled | deadline
  deriving DecidableEq

def Interruption.fault : Interruption → Fault
  | .canceled => .canceled
  | .deadline => .deadline

/-- Whether a run is called off, by the number of steps it has counted. -/
abbrev Interrupts := Nat → Option Interruption

/-- A crash: raised by code that was called, or a step onto a gap of the graph. -/
inductive Panic
  | raised (text : String)
  | gap
  deriving DecidableEq

def Panic.text : Panic → String
  | .raised t => t
  | .gap => "runtime error: invalid memory address or nil pointer dereference"

/-- Why a walk ended before its end. -/
inductive WalkError
  | noGraph
  | interrupted (by_ : Interruption)
  | nodeNotFound (id : Int)
  | stepLimit (node : Int) (limit : Nat)
  | dispatch (node : Int) (kind : NodeKind) (statement : Int) (error : VisitError)
  | panicked (node : Int) (panic : Panic)
  deriving DecidableEq

namespace WalkError

def message : WalkError → String
  | .noGraph => "invalid graph: program has no graph"
  | .interrupted i => i.fault.message
  | .nodeNotFound id => "node not found: " ++ toString id
  | .stepLimit n l =>
    "step limit exceeded: " ++ toString l ++ " steps at node " ++ toString n
  | .dispatch n k s e =>
    "node " ++ toString n ++ " (" ++ k.name ++ ", statement " ++ toString s ++ "): " ++ e.message
  | .panicked n p => "panic at node " ++ toString n ++ ": " ++ p.text

def marks : WalkError → List Mark
  | .noGraph => [.invalidGraph]
  | .interrupted i => i.fault.marks
  | .nodeNotFound _ => [.nodeNotFound]
  | .stepLimit .. => [.stepLimit]
  | .dispatch _ _ _ e => e.marks
  | .panicked .. => []

def fault (e : WalkError) : Fault := ⟨e.message, e.marks⟩

/-- The kind of failure an error is reported as. -/
def kind : WalkError → FailureKind
  | .noGraph => .graph
  | .interrupted _ => .cancelled
  | .nodeNotFound _ => .graph
  | .stepLimit .. => .stepLimit
  | .dispatch .. => .dispatch
  | .panicked .. => .panic

end WalkError

/-- What observers of a run are told. -/
inductive Event
  | requestStart (message program : String)
  | nodeVisit (message program : String) (node : Int) (kind : NodeKind) (statement : String)
      (step : Nat)
  | requestComplete (message program : String) (result : Result)

/-- An observer: `some text` when the call crashes with that text. -/
abbrev Hook := Event → Option String

/-- Everything a run needs besides the request: what runs a node, who is told, and how many nodes
one request may dispatch. -/
structure Engine where
  visitor : Visitor := Visitor.standard
  hook : Option Hook := none
  maxSteps : Nat := 10000

/-- The step budget in effect: the default one unless a positive one is asked for. -/
def Engine.budgetOf (asked : Int) : Nat := if 0 < asked then asked.toNat else 10000

/-- One dispatched node: where it stands, the node itself and the number of the step. -/
structure Visit where
  place : Int
  node : Node
  step : Nat
  deriving DecidableEq

/-- How far a walk came. -/
structure Walked where
  context : Context
  visits : List Visit
  stop : Option WalkError

namespace Walked

/-- The walk with one more visit before it. -/
def after (v : Visit) (w : Walked) : Walked := { w with visits := v :: w.visits }

end Walked

namespace Engine

/-- What observers are told about a visit. -/
def visitEvent (g : Graph) (c : Context) (v : Visit) : Event :=
  .nodeVisit c.message.id c.programName v.node.id v.node.kind ((g.statementText? v.node).getD "")
    v.step

/-- Tells observers about an event; the text of their crash, if they crash. -/
def tell (e : Engine) (ev : Event) : Option String :=
  match e.hook with
  | some h => h ev
  | none => none

/-- Walks from node `cur`. At each node the budget is held against the steps that the context counts,
to which a visitor may add its own. No visitor takes a step back, so with at least as much `fuel` as there
are steps left the walk never runs out of it. -/
def walkFrom (e : Engine) (g : Graph) (interrupts : Interrupts) :
    Nat → Int → Context → Walked
  | fuel, cur, c =>
    if cur = noNode then ⟨c, [], none⟩
    else
      match interrupts c.steps with
      | some i => ⟨c, [], some (.interrupted i)⟩
      | none =>
        match g.slot? cur with
        | none => ⟨c, [], some (.nodeNotFound cur)⟩
        | some slot =>
          let c := { c with cursor := cur }
          if e.maxSteps ≤ c.steps then ⟨c, [], some (.stepLimit cur e.maxSteps)⟩
          else
            match fuel with
            | 0 => ⟨c, [], some (.stepLimit cur e.maxSteps)⟩
            | fuel + 1 =>
              let c := { c with steps := c.steps + 1 }
              match slot with
              | none => ⟨c, [], some (.panicked cur .gap)⟩
              | some n =>
                let v : Visit := ⟨cur, n, c.steps⟩
                match e.tell (visitEvent g c v) with
                | some t => ⟨c, [v], some (.panicked cur (.raised t))⟩
                | none =>
                  match e.visitor n c with
                  | (c, .done) =>
                    (walkFrom e g interrupts fuel (n.successor c.decision) c).after v
                  | (c, .failed err) =>
                    ⟨c, [v], some (.dispatch cur n.kind n.parent err)⟩
                  | (c, .panicked t) => ⟨c, [v], some (.panicked c.cursor (.raised t))⟩

/-- Walks the graph of a context from its cursor. -/
def walk (e : Engine) (interrupts : Interrupts) (c : Context) : Walked :=
  match c.graph with
  | none => ⟨c, [], some .noGraph⟩
  | some g => walkFrom e g interrupts (e.maxSteps - c.steps) c.cursor c

end Engine
end Courier
