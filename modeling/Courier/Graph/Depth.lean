import Courier.Graph.Basic

/-!
The number of nodes on the longest walk of a graph. Depths already found are kept, so that nodes that
several branches lead to are measured once.
-/

namespace Courier.Graph

/-- Depths found so far. -/
abbrev Depths := List (Int × Nat)

def Depths.get? (memo : Depths) (id : Int) : Option Nat :=
  (memo.find? fun e => e.1 = id).map Prod.snd

/-- The largest of `best` and the depths from a list of nodes. -/
def deepest (measure : Depths → Int → Nat × Depths) : Depths → Nat → List Int → Nat × Depths
  | memo, best, [] => (best, memo)
  | memo, best, t :: ts =>
    let r := measure memo t
    deepest measure r.2 (if best < r.1 then r.1 else best) ts

/-- The depth from a node, and the depths known afterwards. -/
def depthFrom (g : Graph) : Nat → Depths → Int → Nat × Depths
  | 0, memo, _ => (0, memo)
  | fuel + 1, memo, id =>
    if id = noNode then (0, memo)
    else
      match memo.get? id with
      | some d => (d, memo)
      | none =>
        match g.node? id with
        | none => (0, memo)
        | some n =>
          let r := deepest (depthFrom g fuel) memo 0 n.targets
          (r.1 + 1, (id, r.1 + 1) :: r.2)

/-- The number of nodes on the longest walk from the entry, for a graph that passes `check`. -/
def depth (g : Graph) : Nat := (depthFrom g (g.nodes.length + 1) [] g.entry).1

end Courier.Graph
