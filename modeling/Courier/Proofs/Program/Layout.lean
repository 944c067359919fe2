import Courier.Program.Block
import Courier.Proofs.Graph.Cycle

/-! The graph that a block is laid out as.
`Threaded` says what a graph has to contain so that a walk from one node to another runs a block.
The layout of a block is threaded from its entry to its continuation, successors always stand before
the nodes they follow, and so every named draft with a body builds. -/
namespace Courier

/-- The statement of its own that a statement with number `i` is declared as. -/
def Stmt.statement (file : String) (i : Nat) : Stmt → Statement
  | .assign target value => ⟨i, .assign, target, value, .empty, ⟨file, i⟩⟩
  | .reply value => ⟨i, .reply, "", value, .empty, ⟨file, i⟩⟩
  | .cond c _ _ => ⟨i, .cond, "", .empty, c, ⟨file, i⟩⟩

namespace Block

mutual
/-- In the graph `g`, a walk from node `cur` to node `next` runs the statement with number `i`. -/
def StmtThreaded (g : Graph) (file : String) (i : Nat) (cur next : Int) : Stmt → Prop
  | .assign target value =>
    g.node? cur = some (.assign cur i next) ∧
      g.statement? i = some ((Stmt.assign target value).statement file i)
  | .reply value =>
    g.node? cur = some (.reply cur i next) ∧
      g.statement? i = some ((Stmt.reply value).statement file i)
  | .cond c t e => ∃ onTrue onFalse,
    g.node? cur = some (.branch cur i onTrue onFalse) ∧
      g.statement? i = some ((Stmt.cond c t e).statement file i) ∧
      Threaded g file (i + 1) onTrue next t ∧ Threaded g file (i + 1 + count t) onFalse next e
/-- The same for a block whose first statement has number `i`. -/
def Threaded (g : Graph) (file : String) (i : Nat) (cur next : Int) : List Stmt → Prop
  | [] => cur = next
  | s :: b => ∃ mid, StmtThreaded g file i cur mid s ∧ Threaded g file (i + stmtCount s) mid next b
end

/-- The list `ys` stands in `xs` from position `k` on. -/
def Holds {α : Type} (xs : List α) (k : Nat) (ys : List α) : Prop :=
  ∀ (j : Nat) (y : α), ys[j]? = some y → xs[k + j]? = some y

theorem Holds.append {α : Type} {xs ys zs : List α} {k : Nat} (h : Holds xs k (ys ++ zs)) :
    Holds xs k ys ∧ Holds xs (k + ys.length) zs := by
  constructor
  · intro j y hj
    have hlt := (List.getElem?_eq_some_iff.mp hj).1
    exact h j y (by rwa [List.getElem?_append_left hlt])
  · intro j y hj
    have hj' : (ys ++ zs)[ys.length + j]? = some y := by
      rw [List.getElem?_append_right (by omega), Nat.add_sub_cancel_left]
      exact hj
    rw [Nat.add_assoc]
    exact h _ y hj'

theorem Holds.cons {α : Type} {xs ys : List α} {k : Nat} {y : α} (h : Holds xs k (y :: ys)) :
    xs[k]? = some y ∧ Holds xs (k + 1) ys := by
  have happend : Holds xs k ([y] ++ ys) := h
  obtain ⟨hhead, htail⟩ := happend.append
  exact ⟨hhead 0 y rfl, htail⟩

theorem declareStmt_eq_cons (file : String) (i : Nat) (s : Stmt) :
    ∃ rest, declareStmt file i s = s.statement file i :: rest := by
  cases s <;> exact ⟨_, rfl⟩

mutual
theorem length_declareStmt (file : String) (i : Nat) (s : Stmt) :
    (declareStmt file i s).length = stmtCount s := by
  cases s with
  | assign target value => rfl
  | reply value => rfl
  | cond c t e =>
    have ht := length_declare file (i + 1) t
    have he := length_declare file (i + 1 + count t) e
    simp only [declareStmt, stmtCount, List.length_cons, List.length_append, ht, he]
    omega
theorem length_declare (file : String) (i : Nat) (b : List Stmt) :
    (declare file i b).length = count b := by
  cases b with
  | nil => rfl
  | cons s b =>
    have hs := length_declareStmt file i s
    have hb := length_declare file (i + stmtCount s) b
    simp only [declare, count, List.length_append, hs, hb]
end

mutual
theorem linkStmt_threaded {g : Graph} {file : String} (s : Stmt) (i k : Nat) (next : Int)
    (hn : Holds g.nodes k ((linkStmt i k next s).nodes.map some))
    (hs : Holds g.statements i (declareStmt file i s)) :
    StmtThreaded g file i (linkStmt i k next s).entry next s := by
  obtain ⟨rest, hdecl⟩ := declareStmt_eq_cons file i s
  have hstmt : g.statement? i = some (s.statement file i) := by
    rw [Graph.statement?, at?_natCast]
    exact (Holds.cons (hdecl ▸ hs)).1
  cases s with
  | assign target value =>
    refine ⟨?_, hstmt⟩
    rw [linkStmt, Graph.node?_natCast, (Holds.cons hn).1]
    rfl
  | reply value =>
    refine ⟨?_, hstmt⟩
    rw [linkStmt, Graph.node?_natCast, (Holds.cons hn).1]
    rfl
  | cond c t e =>
    simp only [linkStmt, List.map_append] at hn ⊢
    obtain ⟨hab, hbranch⟩ := hn.append
    obtain ⟨ha, hb⟩ := hab.append
    simp only [List.length_append, List.length_map] at hb hbranch
    -- The then-branch is declared right after the condition, the else-branch after it.
    obtain ⟨-, hts⟩ := Holds.cons hs
    obtain ⟨hst, hse⟩ := hts.append
    rw [length_declare] at hse
    refine ⟨_, _, ?_, hstmt, link_threaded t (i + 1) k next ha hst,
      link_threaded e (i + 1 + count t) _ next hb hse⟩
    have hnode := (Holds.cons hbranch).1
    rw [← Nat.add_assoc] at hnode
    rw [Graph.node?_natCast, hnode]
    rfl
theorem link_threaded {g : Graph} {file : String} (b : List Stmt) (i k : Nat) (next : Int)
    (hn : Holds g.nodes k ((link i k next b).nodes.map some))
    (hs : Holds g.statements i (declare file i b)) :
    Threaded g file i (link i k next b).entry next b := by
  cases b with
  | nil => rfl
  | cons s b =>
    simp only [link, List.map_append] at hn ⊢
    obtain ⟨hrest, hfirst⟩ := hn.append
    obtain ⟨hss, hsb⟩ := hs.append
    -- Statements are numbered forwards while their nodes are laid out backwards.
    rw [length_declareStmt] at hsb
    rw [List.length_map] at hfirst
    exact ⟨_, linkStmt_threaded s i _ _ hfirst hss,
      link_threaded b (i + stmtCount s) k next hrest hsb⟩
end

/-- What holds of the node `n` at position `p` when a block with statements from number `i` up to
`j` is laid out from position `k` on: its successors are the continuation or stand before it. -/
structure NodeLaid (i j k : Nat) (next : Int) (p : Nat) (n : Node) : Prop where
  id : n.id = p
  parent : (i : Int) ≤ n.parent ∧ n.parent < j
  targets : ∀ t ∈ n.targets, t = next ∨ (k : Int) ≤ t ∧ t < p

/-- The nodes of a layout from position `k` on, all of them well laid out. -/
def Laid (i j k : Nat) (next : Int) (nodes : List Node) : Prop :=
  ∀ (p : Nat) (n : Node), nodes[p]? = some n → NodeLaid i j k next (k + p) n

/-- A layout is entered at its last node, or at the continuation if it has none. -/
def EnteredAt (k : Nat) (next : Int) (l : Linked) : Prop :=
  l.nodes = [] ∧ l.entry = next ∨ l.nodes ≠ [] ∧ l.entry = (k + l.nodes.length : Nat) - 1

theorem EnteredAt.range {k : Nat} {next : Int} {l : Linked} (h : EnteredAt k next l) :
    l.entry = next ∨ (k : Int) ≤ l.entry ∧ l.entry < (k + l.nodes.length : Nat) := by
  rcases h with ⟨-, he⟩ | ⟨hne, he⟩
  · exact .inl he
  · have hpos := List.length_pos_iff.mpr hne
    exact .inr ⟨by omega, by omega⟩

/-- Widening the numbers of the statements, and moving the continuation back to a node that is laid
out or to the continuation of the whole. -/
theorem NodeLaid.widen {i j i' j' k k' p : Nat} {next next' : Int} {n : Node}
    (h : NodeLaid i j k next p n) (hi : i' ≤ i) (hj : j ≤ j') (hk : k' ≤ k) (hp : k ≤ p)
    (hnext : next = next' ∨ (k' : Int) ≤ next ∧ next < k) : NodeLaid i' j' k' next' p n := by
  have hparent := h.parent
  refine ⟨h.id, ⟨by omega, by omega⟩, fun t ht => ?_⟩
  rcases h.targets t ht with rfl | htk
  · rcases hnext with rfl | hnext
    · exact .inl rfl
    · exact .inr ⟨by omega, by omega⟩
  · exact .inr ⟨by omega, by omega⟩

theorem Laid.append {i j k : Nat} {next : Int} {xs ys : List Node} (hx : Laid i j k next xs)
    (hy : ∀ (p : Nat) (n : Node), ys[p]? = some n → NodeLaid i j k next (k + xs.length + p) n) :
    Laid i j k next (xs ++ ys) := by
  intro p n hp
  by_cases hlt : p < xs.length
  · rw [List.getElem?_append_left hlt] at hp
    exact hx p n hp
  · rw [List.getElem?_append_right (by omega)] at hp
    have h := hy (p - xs.length) n hp
    rwa [show k + xs.length + (p - xs.length) = k + p by omega] at h

/-- A single node that goes on to the continuation. -/
theorem Laid.leaf {i k : Nat} {next : Int} {n : Node} (hid : n.id = k) (hparent : n.parent = i)
    (htargets : n.targets = [next]) : Laid i (i + 1) k next [n] := by
  intro p m hp
  cases p with
  | succ p => simp at hp
  | zero =>
    simp only [List.getElem?_cons_zero, Option.some.injEq] at hp
    subst hp
    exact ⟨hid, by omega, fun t ht => .inl (by simpa [htargets] using ht)⟩

mutual
theorem linkStmt_laid (s : Stmt) (i k : Nat) (next : Int) :
    Laid i (i + stmtCount s) k next (linkStmt i k next s).nodes ∧
      (linkStmt i k next s).nodes.length = stmtCount s ∧
      (linkStmt i k next s).entry = (k + stmtCount s : Nat) - 1 := by
  cases s with
  | assign target value => exact ⟨.leaf rfl rfl rfl, rfl, by simp [linkStmt, stmtCount]⟩
  | reply value => exact ⟨.leaf rfl rfl rfl, rfl, by simp [linkStmt, stmtCount]⟩
  | cond c t e =>
    obtain ⟨ht, htlen, htentry⟩ := link_laid t (i + 1) k next
    obtain ⟨he, helen, heentry⟩ := link_laid e (i + 1 + count t) (k + count t) next
    -- Both branches go on where the statement does, and each is entered within itself or there.
    have ht' := htentry.range
    have he' := heentry.range
    rw [htlen] at ht'
    rw [helen] at he'
    simp only [linkStmt, stmtCount, htlen, helen]
    refine ⟨Laid.append (Laid.append ?_ ?_) ?_, ?_, ?_⟩
    · exact fun p n hp => (ht p n hp).widen (by omega) (by omega) (by omega) (by omega) (.inl rfl)
    · intro p n hp
      rw [htlen]
      exact (he p n hp).widen (by omega) (by omega) (by omega) (by omega) (.inl rfl)
    · intro p n hp
      cases p with
      | succ p => simp at hp
      | zero =>
        simp only [List.getElem?_cons_zero, Option.some.injEq] at hp
        subst hp
        -- The branch node comes last, right after the nodes of the second branch.
        simp only [List.length_append, htlen, helen]
        refine ⟨?_, ⟨?_, ?_⟩, ?_⟩
        · simp only [Node.id]; omega
        · simp only [Node.parent]; omega
        · simp only [Node.parent]; omega
        · intro u hu
          simp only [Node.targets, List.mem_cons, List.not_mem_nil, or_false] at hu
          rcases hu with rfl | rfl
          · exact ht'.imp_right fun h => ⟨by omega, by omega⟩
          · exact he'.imp_right fun h => ⟨by omega, by omega⟩
    · simp only [List.length_append, htlen, helen, List.length_cons, List.length_nil]
      omega
    · omega
theorem link_laid (b : List Stmt) (i k : Nat) (next : Int) :
    Laid i (i + count b) k next (link i k next b).nodes ∧
      (link i k next b).nodes.length = count b ∧ EnteredAt k next (link i k next b) := by
  cases b with
  | nil => exact ⟨fun p n hp => by simp [link] at hp, rfl, .inl ⟨rfl, rfl⟩⟩
  | cons s b =>
    -- The rest of the block is laid out first, and the first statement goes on at its entry.
    obtain ⟨hb, hblen, hbentry⟩ := link_laid b (i + stmtCount s) k next
    obtain ⟨hs, hslen, hsentry⟩ := linkStmt_laid s i (k + count b)
      (link (i + stmtCount s) k next b).entry
    have hb' := hbentry.range
    rw [hblen] at hb'
    have hpos : 0 < stmtCount s := by cases s <;> simp only [stmtCount] <;> omega
    simp only [link, hblen, count]
    refine ⟨Laid.append ?_ ?_, ?_, .inr ⟨?_, ?_⟩⟩
    · exact fun p n hp => (hb p n hp).widen (by omega) (by omega) (by omega) (by omega) (.inl rfl)
    · intro p n hp
      rw [hblen]
      exact (hs p n hp).widen (by omega) (by omega) (by omega) (by omega) (by omega)
    · rw [List.length_append, hblen, hslen]
      omega
    · exact List.ne_nil_of_length_pos (by rw [List.length_append, hslen]; omega)
    · simp only [List.length_append, hblen, hslen, hsentry]
      omega
end

theorem graph_nodeLaid {file : String} {b : List Stmt} {p : Nat} {n : Node}
    (h : (graph file b).nodes[p]? = some (some n)) : NodeLaid 0 (count b) 0 noNode p n := by
  obtain ⟨hlaid, -, -⟩ := link_laid b 0 0 noNode
  have hn : (link 0 0 noNode b).nodes[p]? = some n := by
    simpa [graph, List.getElem?_map] using h
  simpa using hlaid p n hn

theorem length_graph_nodes (file : String) (b : List Stmt) :
    (graph file b).nodes.length = count b := by
  simpa [graph] using (link_laid b 0 0 noNode).2.1

/-- The layout of a block that is not empty is placed. -/
theorem graph_placed (file : String) {b : List Stmt} (hb : b ≠ []) : (graph file b).Placed := by
  have hlen := length_graph_nodes file b
  have hstmts : (graph file b).statements.length = count b := length_declare file 0 b
  refine ⟨?_, fun i hi => ?_, fun p n hp => ?_⟩
  -- The entry is the last node, and there is one.
  · rcases (link_laid b 0 0 noNode).2.2 with ⟨hnil, -⟩ | ⟨hne, he⟩
    · have hpos : 0 < count b := by
        cases b with
        | nil => exact absurd rfl hb
        | cons s b => cases s <;> simp only [count, stmtCount] <;> omega
      have hzero : count b = 0 := by rw [← (link_laid b 0 0 noNode).2.1, hnil]; rfl
      omega
    · have hpos := List.length_pos_iff.mpr hne
      simp only [Within, graph, he, List.length_map]
      omega
  · simp [graph, List.getElem?_map] at hi
  · have hp' := (List.getElem?_eq_some_iff.mp hp).1
    have hn := graph_nodeLaid hp
    have hparent := hn.parent
    refine ⟨hn.id, ⟨by omega, by omega⟩, fun t ht => (hn.targets t ht).imp_right fun h => ?_⟩
    exact ⟨by omega, by omega⟩

/-- Every step of a walk through a layout goes to an earlier position. -/
theorem graph_edge_lt {file : String} {b : List Stmt} {x y : Int} (h : (graph file b).Edge x y) :
    y < x := by
  obtain ⟨n, hn, hmem, hne⟩ := h
  obtain ⟨p, rfl, hp⟩ := Graph.node?_eq_some hn
  exact ((graph_nodeLaid hp).targets y hmem).resolve_left hne |>.2

theorem graph_acyclic (file : String) (b : List Stmt) : (graph file b).Acyclic := by
  rintro ⟨c, -, hcyc⟩
  -- Positions fall along every path, so nothing leads back to itself.
  have hlt : ∀ {x y : Int}, Relation.TransGen (graph file b).Edge x y → y < x := by
    intro x y h
    induction h with
    | single h => exact graph_edge_lt h
    | tail _ h ih => exact Int.lt_trans (graph_edge_lt h) ih
  exact Int.lt_irrefl c (hlt hcyc)

/-- The layout of a block runs the block from its entry to the end. -/
theorem graph_threaded (file : String) (b : List Stmt) :
    Threaded (graph file b) file 0 (graph file b).entry noNode b := by
  refine link_threaded b 0 0 noNode ?_ ?_ <;> intro j y hj <;> rw [Nat.zero_add] <;> exact hj

end Block

theorem Program.check_eq_ok_iff (p : Program) :
    p.check = .ok () ↔ p.name ≠ "" ∧ ∃ g, p.graph = some g ∧ g.check = .ok () := by
  unfold Program.check
  split_ifs with hname
  · simp [hname]
  · cases hg : p.graph with
    | none => simp
    | some g =>
      cases hc : g.check with
      | error e => simp [Except.mapError, hc]
      | ok u => simp [Except.mapError, hc, hname]

namespace Draft

theorem program_check_eq_ok_iff (d : Draft) :
    d.program.check = .ok () ↔ d.name ≠ "" ∧ d.body ≠ [] := by
  have hgraph : (Block.graph d.file d.body).check = .ok () ↔ d.body ≠ [] := by
    constructor
    · intro hcheck hbody
      -- An empty body is entered at no node at all.
      have hentry := (Graph.placed_of_check hcheck).entry
      rw [hbody] at hentry
      exact Graph.not_within_noNode _ hentry
    · intro hbody
      have hp := Block.graph_placed d.file hbody
      rw [Graph.check_of_placed hp,
        (Graph.findCycle_eq_none_iff hp).mpr (Block.graph_acyclic d.file d.body)]
  rw [Program.check_eq_ok_iff, ← hgraph]
  simp [program]

/-- Every named draft with a body builds. -/
theorem build_eq_ok {d : Draft} (hname : d.name ≠ "") (hbody : d.body ≠ []) :
    d.build = .ok d.program := by
  rw [build, (program_check_eq_ok_iff d).mpr ⟨hname, hbody⟩]

theorem of_build_eq_ok {d : Draft} {p : Program} (h : d.build = .ok p) :
    p = d.program ∧ d.name ≠ "" ∧ d.body ≠ [] := by
  unfold build at h
  split at h
  · next hcheck =>
    cases h
    exact ⟨rfl, (program_check_eq_ok_iff d).mp hcheck⟩
  · cases h

end Draft
end Courier
