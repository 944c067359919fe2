import Courier.Graph.Basic
import Courier.Text.Blank

/-!
The flowchart of a graph as Mermaid text: a box for each node, arrows to its successors, and optionally
the styles of the nodes a run visited and failed at.
-/

namespace Courier.Graph

/-- What a run adds to a diagram. -/
structure Overlay where
  visited : List Int
  failed : Option Int

namespace Diagram

def nodeName (id : Int) : String := "n" ++ toString id

def targetName (id : Int) : String := if id = noNode then "done" else nodeName id

/-- Labels stand in double quotes, so a double quote in one becomes a single one. -/
def escape (s : String) : String := Text.replaceChar '"' ['\''] s

/-- The brackets around a label show the kind of the node. -/
def brackets : NodeKind → String × String
  | .assign => ("[", "]")
  | .reply => ("[/", "/]")
  | .branch => ("\x7b", "\x7d")

def label (g : Graph) (n : Node) : String := (g.statementText? n).getD n.kind.name

/-- The lines of one node: its box and its arrows. -/
def nodeLines (g : Graph) (n : Node) : List String :=
  let name := nodeName n.id
  let b := brackets n.kind
  let box := "    " ++ name ++ b.1 ++ "\"" ++ escape (label g n) ++ "\"" ++ b.2
  box :: match n with
    | .branch _ _ t e =>
      ["    " ++ name ++ " -- \"then\" --> " ++ targetName t,
        "    " ++ name ++ " -- \"else\" --> " ++ targetName e]
    | n => ["    " ++ name ++ " --> " ++ targetName (n.successor false)]

/-- Every line of the diagram without styles. -/
def lines (g : Graph) (nodes : List Node) : List String :=
  ["graph TD", "    start((\"start\"))", "    done((\"end\"))",
    "    start --> " ++ targetName g.entry] ++ nodes.flatMap (nodeLines g)

/-- The nodes of the graph among the visited ones, each at its first visit. -/
def visitedNodes (g : Graph) : List Int → List Int → List Int
  | _, [] => []
  | seen, v :: vs =>
    if (g.slot? v).isNone ∨ v ∈ seen then visitedNodes g seen vs
    else v :: visitedNodes g (v :: seen) vs

/-- The style lines of an overlay. -/
def overlayLines (g : Graph) (o : Overlay) : List String :=
  ["", "    %% Overlay Styles",
    "    classDef visited fill:#e1f5fe,stroke:#01579b,stroke-width:2px,color:#000;",
    "    classDef failed fill:#ffcdd2,stroke:#b71c1c,stroke-width:4px,color:#000;"] ++
  (visitedNodes g [] o.visited).map (fun v => "    class " ++ nodeName v ++ " visited;") ++
  match o.failed with
  | some f => if (g.slot? f).isSome then ["    class " ++ nodeName f ++ " failed;"] else []
  | none => []

/-- Lines with a line end each. -/
def joinLines (ls : List String) : String := String.join (ls.map (· ++ "\n"))

end Diagram

/-- The nodes of a graph without gaps. -/
def allNodes? (g : Graph) : Option (List Node) := g.nodes.mapM id

/-- The Mermaid text of a graph; none when the graph has a gap. -/
def diagram? (g : Graph) (overlay : Option Overlay) : Option String :=
  g.allNodes?.map fun nodes =>
    Diagram.joinLines (Diagram.lines g nodes ++
      match overlay with
      | some o => Diagram.overlayLines g o
      | none => [])

end Courier.Graph
