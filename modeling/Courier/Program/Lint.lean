import Courier.Program.Basic
import Courier.Text.Blank

/-!
Advice about programs that run but are likely wrong: nodes that the walk cannot reach, variables that
are read but never assigned, and payload fields that the schema does not declare.
-/

namespace Courier

inductive Advice
  | missingNode
  | unreachable (kind : NodeKind)
  | unassigned (name : String)
  | undeclared (field : String)
  deriving DecidableEq

def Advice.message : Advice → String
  | .missingNode => "missing node"
  | .unreachable k => "unreachable " ++ k.name ++ " node"
  | .unassigned x => "variable " ++ Text.quote x ++ " is never assigned"
  | .undeclared f => "field " ++ Text.quote f ++ " is not declared in the input schema"

/-- One piece of advice and the node it is about. -/
structure Finding where
  node : Int
  advice : Advice
  deriving DecidableEq

def Finding.text (f : Finding) : String :=
  if f.node = noNode then f.advice.message
  else "node " ++ toString f.node ++ ": " ++ f.advice.message

namespace Lint

/-- What a crawl from the entry has seen. -/
structure Crawl where
  visited : List Int
  assigned : List String
  missing : List Int

/-- Takes nodes from the queue in order and puts their successors at its end. Every position enters
the visited list once and brings at most two successors, which bounds the number of steps. -/
def crawl (g : Graph) : Nat → List Int → Crawl → Crawl
  | 0, _, c => c
  | _ + 1, [], c => c
  | fuel + 1, id :: queue, c =>
    if id = noNode ∨ id ∈ c.visited then crawl g fuel queue c
    else
      let visited := id :: c.visited
      match g.node? id with
      | none => crawl g fuel queue { c with visited, missing := c.missing ++ [id] }
      | some n =>
        let assigned := match g.statement? n.parent with
          | some s => if s.kind = .assign then s.target :: c.assigned else c.assigned
          | none => c.assigned
        let fresh := n.targets.filter fun t => t ∉ visited
        crawl g fuel (queue ++ fresh) { c with visited, assigned }

/-- Everything the entry leads to. -/
def reach (g : Graph) : Crawl := crawl g (4 * g.nodes.length + 4) [g.entry] ⟨[], [], []⟩

/-- Advice about one expression. -/
def exprAdvice (input : Schema) (assigned : List String) (e : Expr) : List Advice :=
  e.subterms.filterMap fun t =>
    match t.op with
    | .var x => if x ∈ assigned then none else some (.unassigned x)
    | .field path =>
      let root := String.ofList (Text.cutChars '.' path.toList).1
      if input.isEmpty ∨ input.contains root ∨ input.contains (root ++ "?") then none
      else some (.undeclared root)
    | _ => none

/-- Advice about the expressions of a node's statement. -/
def nodeAdvice (g : Graph) (input : Schema) (assigned : List String) (n : Node) : List Finding :=
  match g.statement? n.parent with
  | some s =>
    (exprAdvice input assigned s.value ++ exprAdvice input assigned s.cond).map (⟨n.id, ·⟩)
  | none => []

/-- All findings about a graph with the given nodes, ordered by node. -/
def findings (g : Graph) (nodes : List Node) (input : Schema) : List Finding :=
  let c := reach g
  let missing := c.missing.map fun id => (⟨id, .missingNode⟩ : Finding)
  let unreached := nodes.filter fun n => n.id ∉ c.visited
  let reached := nodes.filter fun n => n.id ∈ c.visited
  let all := missing ++ unreached.map (fun n => ⟨n.id, .unreachable n.kind⟩) ++
    reached.flatMap (nodeAdvice g input c.assigned)
  all.mergeSort fun a b => a.node ≤ b.node

/-- The text of a list of findings about a program. -/
def message (program : String) (fs : List Finding) : String :=
  "program " ++ program ++ ": found " ++ toString fs.length ++ " problem(s):\n- " ++
    String.intercalate "\n- " (fs.map Finding.text)

end Lint

/-- The findings about a program; none when it has no graph or its graph has a gap. -/
def Program.lint? (p : Program) : Option (List Finding) :=
  match p.graph with
  | none => none
  | some g =>
    match g.nodes.mapM id with
    | none => none
    | some nodes => some (Lint.findings g nodes p.schema)

end Courier
