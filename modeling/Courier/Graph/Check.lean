import Courier.Graph.Basic

/-!
The structural check of a graph. The positions of all nodes, parents and successors are checked first;
only then a depth-first search from the entry looks for a cycle.
-/

namespace Courier.Graph

/-- One thing that is wrong with a node. -/
inductive NodeFault
  | gap (index : Nat)
  | wrongId (index : Nat) (id : Int)
  | noParent (index : Nat) (parent : Int)
  | noSuccessor (index : Nat) (target : Int)
  deriving DecidableEq

def NodeFault.message : NodeFault → String
  | .gap i => "node " ++ toString i ++ " is nil"
  | .wrongId i id => "node at index " ++ toString i ++ " reports id " ++ toString id
  | .noParent i p => "node " ++ toString i ++ ": parent statement " ++ toString p ++ " not found"
  | .noSuccessor i t => "node " ++ toString i ++ ": successor " ++ toString t ++ " not found"

/-- Why a graph cannot be walked. -/
inductive CheckError
  | entry (id : Int)
  | nodes (faults : List NodeFault)
  | cycle (id : Int)
  deriving DecidableEq

def CheckError.detail : CheckError → String
  | .entry id => "entry node " ++ toString id
  | .nodes fs => String.intercalate "\n" (fs.map NodeFault.message)
  | .cycle id => "cycle through node " ++ toString id

def CheckError.message (e : CheckError) : String := "invalid graph: " ++ e.detail

/-- What is wrong with the node at one position. -/
def nodeFaults (g : Graph) (index : Nat) : Option Node → List NodeFault
  | none => [.gap index]
  | some n =>
    (if n.id = index then [] else [.wrongId index n.id]) ++
      (if (g.statement? n.parent).isSome then [] else [.noParent index n.parent]) ++
      (n.targets.filter fun t => t ≠ noNode ∧ (g.slot? t).isNone).map (.noSuccessor index)

/-- What is wrong with the nodes from position `i` on. -/
def faultsFrom (g : Graph) : Nat → List (Option Node) → List NodeFault
  | _, [] => []
  | i, n :: ns => nodeFaults g i n ++ faultsFrom g (i + 1) ns

/-- The successors of a node other than the absent one. -/
def nextOf (g : Graph) (id : Int) : List Int :=
  match g.node? id with
  | some n => n.targets.filter (· ≠ noNode)
  | none => []

/-- Searches from each of a list of nodes in turn, until one search ends at a cycle. -/
def searchAll (searchOne : List Int → Int → Except Int (List Int)) :
    List Int → List Int → Except Int (List Int)
  | done, [] => .ok done
  | done, t :: ts =>
    match searchOne done t with
    | .error c => .error c
    | .ok done => searchAll searchOne done ts

/-- Searches from a node below the `active` ones. The answer is a node on a cycle, or the nodes that
are known to lead to none. -/
def search (g : Graph) : Nat → List Int → List Int → Int → Except Int (List Int)
  | 0, _, done, _ => .ok done
  | fuel + 1, active, done, id =>
    if id ∈ active then .error id
    else if id ∈ done then .ok done
    else
      match searchAll (search g fuel (id :: active)) done (g.nextOf id) with
      | .error c => .error c
      | .ok done => .ok (id :: done)

/-- A node on a cycle that the entry leads to. No path without repetition is longer than the number
of nodes, which bounds the depth of the search. -/
def findCycle (g : Graph) : Option Int :=
  match search g (g.nodes.length + 1) [] [] g.entry with
  | .error c => some c
  | .ok _ => none

/-- Checks that the graph can be walked to an end from its entry. -/
def check (g : Graph) : Except CheckError Unit :=
  if (g.slot? g.entry).isNone then .error (.entry g.entry)
  else
    match faultsFrom g 0 g.nodes with
    | [] =>
      match g.findCycle with
      | some c => .error (.cycle c)
      | none => .ok ()
    | fs => .error (.nodes fs)

end Courier.Graph
