import Mathlib.Data.List.Perm.Subperm
import Mathlib.Logic.Relation
import Courier.Graph.Check

/-! Where the nodes of a graph stand and what they point at.
A graph is placed when its entry, ids, parents and successors are all positions that exist.
The position part of the check finds no fault in exactly the placed graphs. -/
namespace Courier

/-- A position of a list, as an integer that may lie outside. -/
def Within {α : Type} (xs : List α) (i : Int) : Prop := 0 ≤ i ∧ i < xs.length

theorem at?_isSome_iff {α : Type} (xs : List α) (i : Int) :
    (at? xs i).isSome = true ↔ Within xs i := by
  unfold at? Within
  by_cases hneg : i < 0
  · simp only [hneg, ↓reduceIte, Option.isSome_none, Bool.false_eq_true, false_iff]
    omega
  · simp only [hneg, ↓reduceIte, isSome_getElem?]
    omega

theorem at?_natCast {α : Type} (xs : List α) (i : Nat) : at? xs (i : Int) = xs[i]? := by
  have hneg : ¬ (i : Int) < 0 := by omega
  simp only [at?, hneg, ↓reduceIte, Int.toNat_natCast]

/-- What stands at an integer position stands at a natural one. -/
theorem at?_eq_some {α : Type} {xs : List α} {i : Int} {a : α} (h : at? xs i = some a) :
    ∃ k : Nat, i = k ∧ xs[k]? = some a := by
  have hin : Within xs i := (at?_isSome_iff xs i).mp (by simp [h])
  refine ⟨i.toNat, (Int.toNat_of_nonneg hin.1).symm, ?_⟩
  rw [← at?_natCast, Int.toNat_of_nonneg hin.1]
  exact h

theorem mapM_id_map_some {α : Type} (xs : List α) : (xs.map some).mapM id = some xs := by
  induction xs with
  | nil => rfl
  | cons x xs ih => simp [ih]

namespace Graph

theorem slot?_isNone_iff (g : Graph) (i : Int) :
    (g.slot? i).isNone = true ↔ ¬ Within g.nodes i := by
  rw [← at?_isSome_iff]
  cases h : g.slot? i <;> simp_all [slot?]

theorem not_within_noNode {α : Type} (xs : List α) : ¬ Within xs noNode := by
  rintro ⟨h, -⟩
  simp only [noNode] at h
  omega

theorem node?_eq_some_iff {g : Graph} {i : Int} {n : Node} :
    g.node? i = some n ↔ g.slot? i = some (some n) :=
  Option.join_eq_some_iff

theorem node?_eq_some {g : Graph} {i : Int} {n : Node} (h : g.node? i = some n) :
    ∃ k : Nat, i = k ∧ g.nodes[k]? = some (some n) :=
  at?_eq_some (node?_eq_some_iff.mp h)

theorem node?_natCast (g : Graph) (k : Nat) : g.node? k = (g.nodes[k]?).join := by
  rw [node?, slot?, at?_natCast]

theorem within_of_node? {g : Graph} {i : Int} {n : Node} (h : g.node? i = some n) :
    Within g.nodes i := by
  obtain ⟨k, rfl, hk⟩ := node?_eq_some h
  have hlt := (List.getElem?_eq_some_iff.mp hk).1
  exact ⟨by omega, by omega⟩

/-- What the node `n` at position `i` has to satisfy: its id is its position, its parent is a
statement, and its successors are absent or nodes. -/
structure NodePlaced (g : Graph) (i : Nat) (n : Node) : Prop where
  id : n.id = i
  parent : Within g.statements n.parent
  targets : ∀ t ∈ n.targets, t = noNode ∨ Within g.nodes t

/-- A graph whose positions all exist: it is entered at a node, there is no gap, and every node is
well placed. -/
structure Placed (g : Graph) : Prop where
  entry : Within g.nodes g.entry
  full : ∀ i : Nat, g.nodes[i]? ≠ some none
  nodes : ∀ (i : Nat) (n : Node), g.nodes[i]? = some (some n) → g.NodePlaced i n

theorem nodeFaults_none (g : Graph) (i : Nat) : nodeFaults g i none ≠ [] := by
  simp [nodeFaults]

theorem nodeFaults_some_eq_nil_iff (g : Graph) (i : Nat) (n : Node) :
    nodeFaults g i (some n) = [] ↔ g.NodePlaced i n := by
  -- The three kinds of faults are absent one by one.
  have hid : (if n.id = i then ([] : List NodeFault) else [.wrongId i n.id]) = [] ↔ n.id = i := by
    split_ifs with h <;> simp [h]
  have hparent : (if (g.statement? n.parent).isSome then ([] : List NodeFault)
      else [.noParent i n.parent]) = [] ↔ Within g.statements n.parent := by
    rw [← at?_isSome_iff]
    unfold statement?
    split_ifs with h <;> simp [h]
  have htargets : (n.targets.filter fun t => t ≠ noNode ∧ (g.slot? t).isNone).map
      (NodeFault.noSuccessor i) = [] ↔ ∀ t ∈ n.targets, t = noNode ∨ Within g.nodes t := by
    simp only [List.map_eq_nil_iff, List.filter_eq_nil_iff, decide_eq_true_eq,
      slot?_isNone_iff, not_and, not_not]
    exact forall₂_congr fun t _ => or_iff_not_imp_left.symm
  simp only [nodeFaults, List.append_eq_nil_iff, hid, hparent, htargets]
  exact ⟨fun h => ⟨h.1.1, h.1.2, h.2⟩, fun h => ⟨⟨h.id, h.parent⟩, h.targets⟩⟩

theorem faultsFrom_eq_nil_iff (g : Graph) (ns : List (Option Node)) (i : Nat) :
    faultsFrom g i ns = [] ↔ ∀ (j : Nat) (slot : Option Node),
      ns[j]? = some slot → nodeFaults g (i + j) slot = [] := by
  induction ns generalizing i with
  | nil => simp [faultsFrom]
  | cons n ns ih =>
    rw [faultsFrom, List.append_eq_nil_iff, ih]
    constructor
    · rintro ⟨hhead, htail⟩ j slot hj
      cases j with
      | zero =>
        simp only [List.getElem?_cons_zero, Option.some.injEq] at hj
        simpa [← hj] using hhead
      | succ j =>
        have h := htail j slot (by simpa using hj)
        rwa [show i + (j + 1) = i + 1 + j by omega]
    · intro h
      refine ⟨by simpa using h 0 n rfl, fun j slot hj => ?_⟩
      have hj' := h (j + 1) slot (by simpa using hj)
      rwa [show i + (j + 1) = i + 1 + j by omega] at hj'

/-- The checks that come before the search for cycles accept exactly the placed graphs. -/
theorem placed_iff (g : Graph) :
    g.Placed ↔ (g.slot? g.entry).isNone = false ∧ faultsFrom g 0 g.nodes = [] := by
  have hentry : (g.slot? g.entry).isNone = false ↔ Within g.nodes g.entry := by
    rw [← Bool.not_eq_true, slot?_isNone_iff, not_not]
  rw [hentry, faultsFrom_eq_nil_iff]
  constructor
  · intro h
    refine ⟨h.entry, fun j slot hj => ?_⟩
    cases slot with
    -- A gap is a fault whatever stands around it.
    | none => exact absurd hj (h.full j)
    | some n => simpa using (nodeFaults_some_eq_nil_iff g j n).mpr (h.nodes j n hj)
  · rintro ⟨he, hf⟩
    refine ⟨he, fun i hi => nodeFaults_none g (0 + i) (hf i none hi), fun i n hi => ?_⟩
    exact (nodeFaults_some_eq_nil_iff g i n).mp (by simpa using hf i (some n) hi)

namespace Placed

variable {g : Graph}

/-- Every position of a placed graph holds a node. -/
theorem node?_of_within (hp : g.Placed) {i : Int} (hi : Within g.nodes i) :
    ∃ n, g.node? i = some n := by
  have hsome := (at?_isSome_iff g.nodes i).mpr hi
  obtain ⟨slot, hslot⟩ := Option.isSome_iff_exists.mp hsome
  obtain ⟨k, rfl, hk⟩ := at?_eq_some hslot
  cases slot with
  | none => exact absurd hk (hp.full k)
  | some n => exact ⟨n, by rw [node?_natCast, hk]; rfl⟩

theorem nodePlaced (hp : g.Placed) {i : Int} {n : Node} (h : g.node? i = some n) :
    ∃ k : Nat, i = k ∧ g.NodePlaced k n := by
  obtain ⟨k, rfl, hk⟩ := node?_eq_some h
  exact ⟨k, rfl, hp.nodes k n hk⟩

theorem exists_nodes (hp : g.Placed) : ∃ nodes : List Node, g.nodes = nodes.map some := by
  have hsome : ∀ slot ∈ g.nodes, ∃ n : Node, slot = some n := by
    intro slot hmem
    obtain ⟨i, hi⟩ := List.getElem?_of_mem hmem
    cases slot with
    | none => exact absurd hi (hp.full i)
    | some n => exact ⟨n, rfl⟩
  generalize g.nodes = slots at hsome
  induction slots with
  | nil => exact ⟨[], rfl⟩
  | cons slot slots ih =>
    obtain ⟨⟨n, rfl⟩, hrest⟩ := List.forall_mem_cons.mp hsome
    obtain ⟨nodes, rfl⟩ := ih hrest
    exact ⟨n :: nodes, rfl⟩

/-- A placed graph has no gap at any position a walk could look at. -/
theorem slot?_ne_gap (hp : g.Placed) (i : Int) : g.slot? i ≠ some none := by
  intro h
  obtain ⟨k, rfl, hk⟩ := at?_eq_some h
  exact hp.full k hk

end Placed
end Graph
end Courier
