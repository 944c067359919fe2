import Courier.Expr
import Courier.Mark

/-!
Program graphs: statements, and the nodes that run them. Both live in lists and refer to each other by
position; a successor of `-1` ends the walk. A graph made by hand may have gaps, wrong positions and
cycles, which `Graph.check` refuses.
-/

namespace Courier

/-- The absent successor. -/
def noNode : Int := -1

/-- The language construct of a statement. -/
inductive StatementKind
  | assign | reply | cond
  | other (name : String)
  deriving DecidableEq

def StatementKind.name : StatementKind → String
  | .assign => "assign"
  | .reply => "reply"
  | .cond => "if"
  | .other n => n

def StatementKind.ofName (s : String) : StatementKind :=
  if s = "assign" then .assign
  else if s = "reply" then .reply
  else if s = "if" then .cond
  else .other s

/-- Where a statement stands in its source. -/
structure Position where
  file : String
  index : Int

def Position.text (p : Position) : String :=
  if p.file = "" then "statement " ++ toString p.index
  else p.file ++ ": statement " ++ toString p.index

/-- A statement: `value` belongs to assignments and replies, `cond` to conditionals. -/
structure Statement where
  id : Int
  kind : StatementKind
  target : String
  value : Expr
  cond : Expr
  position : Position

def Statement.text (s : Statement) : String :=
  match s.kind with
  | .assign => s.target ++ " := " ++ s.value.text
  | .reply => "reply " ++ s.value.text
  | .cond => "if " ++ s.cond.text
  | .other n => n

/-- One step of a program, with the statement it belongs to and where the walk goes on. -/
inductive Node
  | assign (id parent next : Int)
  | reply (id parent next : Int)
  | branch (id parent onTrue onFalse : Int)
  deriving DecidableEq

inductive NodeKind
  | assign | reply | branch
  deriving DecidableEq

def NodeKind.name : NodeKind → String
  | .assign => "assign"
  | .reply => "reply"
  | .branch => "branch"

namespace Node

def id : Node → Int
  | .assign i _ _ => i
  | .reply i _ _ => i
  | .branch i _ _ _ => i

def parent : Node → Int
  | .assign _ p _ => p
  | .reply _ p _ => p
  | .branch _ p _ _ => p

def kind : Node → NodeKind
  | .assign .. => .assign
  | .reply .. => .reply
  | .branch .. => .branch

/-- The next node, given the outcome of the last condition. -/
def successor (decision : Bool) : Node → Int
  | .assign _ _ n => n
  | .reply _ _ n => n
  | .branch _ _ t e => if decision then t else e

/-- Every node the walk may go on to. -/
def targets : Node → List Int
  | .assign _ _ n => [n]
  | .reply _ _ n => [n]
  | .branch _ _ t e => [t, e]

end Node

/-- Nodes and statements by position, and the node the walk starts at. -/
structure Graph where
  nodes : List (Option Node)
  statements : List Statement
  entry : Int

/-- The element at a position that may be negative or past the end. -/
def at? {α : Type} (xs : List α) (i : Int) : Option α :=
  if i < 0 then none else xs[i.toNat]?

namespace Graph

/-- The place of a node: `none` outside the graph, `some none` for a gap. -/
def slot? (g : Graph) (id : Int) : Option (Option Node) := at? g.nodes id

def node? (g : Graph) (id : Int) : Option Node := (g.slot? id).join

def statement? (g : Graph) (id : Int) : Option Statement := at? g.statements id

/-- The text of the statement a node belongs to. -/
def statementText? (g : Graph) (n : Node) : Option String :=
  (g.statement? n.parent).map Statement.text

end Graph
end Courier
