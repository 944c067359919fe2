import Courier.Dump.Fault
import Courier.Dump.Program
import Courier.Graph.Depth
import Courier.Graph.Diagram
import Courier.Program.Lint
import Courier.Program.Source

/-!
What is known of a program without running it: its dump, whether it is valid, what a reader should
look at, and its diagram.
-/

namespace Courier

open Json (textPair intPair boolPair textsPair)

/-- The diagram of a graph; one with a gap has none. -/
def Graph.diagramDump (o : Option Graph.Overlay) (g : Graph) : Json :=
  match g.diagram? o with
  | some t => .text t
  | none => Panic.gap.dump

def Graph.Overlay.ofDump (j : Json) : Graph.Overlay :=
  let failed := j.get "failed"
  ⟨(j.listAt "visited").map Json.asInt,
    if failed.isNull || failed.asInt = noNode then none else some failed.asInt⟩

/-- What the arena of a graph holds at a number, and where it leads. -/
def Graph.query (g : Graph) (n : Int) : Json :=
  .object ([boolPair "node" (g.slot? n).isSome, boolPair "stmt" (g.statement? n).isSome] ++
    match g.node? n with
    | none => []
    | some node =>
      [("targets", .list (node.targets.map .ofInt)), intPair "successor_true" (node.successor true),
        intPair "successor_false" (node.successor false),
        intPair "successor_nil" (node.successor false)])

namespace Program

/-- A program from its source text or from its dump; null is none. -/
def read (whole : Bool) (j : Json) : Except Json (Option Program) :=
  if j.isNull then .ok none
  else if (j.member? "yaml").isSome then
    ((Source.parse "" (j.textAt "yaml")).mapError (·.dump whole)).map some
  else ((ofDump j).mapError Fault.dump).map some

def lintDump (p : Program) : Json :=
  match p.lint? with
  | none => Panic.gap.dump
  | some [] => .null
  | some fs =>
    Fault.dumpAs "LintError" ⟨Lint.message p.name fs, []⟩
      [("findings", .list (fs.map fun f => .list [.ofInt f.node, .text f.advice.message]))]

def analysis (p : Program) : List (String × Json) :=
  let valid := match p.check with
    | .ok _ => Json.null
    | .error e => e.fault.dump
  p.dump ++ [("valid", valid)] ++
    match p.graph with
    | none => []
    | some g =>
      (if valid.isNull then [intPair "depth" g.depth, textsPair "fields" p.schema.fields] else []) ++
        [("lint", p.lintDump), ("mermaid", g.diagramDump none)]

end Program
end Courier
