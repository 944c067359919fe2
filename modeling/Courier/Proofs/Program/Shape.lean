import Courier.Proofs.Graph.Depth
import Courier.Proofs.Program.Builder
import Courier.Proofs.Program.Lint
import Courier.Proofs.Program.WellFormed
import Mathlib.Data.List.Nodup

/-! The shape of the graph that a block is laid out as.
Statements are numbered in the order they are written, each of them has exactly one node of its kind,
successors stand before the nodes they follow, and the last node leads to all others. -/
namespace Courier

/-- The statement that a node belongs to: its number, and the kind it has to be of. -/
def Node.label (n : Node) : Int × StatementKind := (n.parent, Visitor.wantedKind n.kind)

def Statement.label (s : Statement) : Int × StatementKind := (s.id, s.kind)

namespace Block

mutual
/-- A statement and those inside it, in the order they are written. -/
def stmtPreorder : Stmt → List Stmt
  | .assign target value => [.assign target value]
  | .reply value => [.reply value]
  | .cond c t e => .cond c t e :: (preorder t ++ preorder e)
/-- The statements of a block, nested ones included, in the order they are written. -/
def preorder : List Stmt → List Stmt
  | [] => []
  | s :: b => stmtPreorder s ++ preorder b
end

mutual
theorem length_stmtPreorder (s : Stmt) : (stmtPreorder s).length = stmtCount s := by
  cases s with
  | assign target value => rfl
  | reply value => rfl
  | cond c t e =>
    have ht := length_preorder t
    have he := length_preorder e
    simp only [stmtPreorder, stmtCount, List.length_cons, List.length_append, ht, he]
    omega
theorem length_preorder (b : List Stmt) : (preorder b).length = count b := by
  cases b with
  | nil => rfl
  | cons s b =>
    have hs := length_stmtPreorder s
    have hb := length_preorder b
    simp only [preorder, count, List.length_append, hs, hb]
end

mutual
theorem declareStmt_eq_mapIdx (file : String) (s : Stmt) (i : Nat) :
    declareStmt file i s = (stmtPreorder s).mapIdx fun j u => u.statement file (i + j) := by
  cases s with
  | assign target value => rfl
  | reply value => rfl
  | cond c t e =>
    have ht := declare_eq_mapIdx file t (i + 1)
    have he := declare_eq_mapIdx file e (i + 1 + count t)
    simp only [declareStmt, stmtPreorder, List.mapIdx_cons, List.mapIdx_append, length_preorder]
    rw [ht, he]
    -- The branches are numbered after the condition, the second one after the first.
    simp only [Nat.add_assoc, Nat.add_comm, Nat.add_left_comm]
    rfl
theorem declare_eq_mapIdx (file : String) (b : List Stmt) (i : Nat) :
    declare file i b = (preorder b).mapIdx fun j u => u.statement file (i + j) := by
  cases b with
  | nil => rfl
  | cons s b =>
    have hs := declareStmt_eq_mapIdx file s i
    have hb := declare_eq_mapIdx file b (i + stmtCount s)
    simp only [declare, preorder, List.mapIdx_append, length_stmtPreorder]
    rw [hs, hb]
    simp only [Nat.add_comm, Nat.add_left_comm]
end

mutual
theorem linkStmt_labels (file : String) (s : Stmt) (i k : Nat) (next : Int) :
    ((linkStmt i k next s).nodes.map Node.label).Perm
      ((declareStmt file i s).map Statement.label) := by
  cases s with
  | assign target value => rfl
  | reply value => rfl
  | cond c t e =>
    have ht := link_labels file t (i + 1) k next
    have he := link_labels file e (i + 1 + count t)
      (k + (link (i + 1) k next t).nodes.length) next
    simp only [linkStmt, declareStmt, List.map_append, List.map_cons, List.map_nil]
    -- The node of the condition comes last, but its statement comes first.
    apply (List.perm_append_singleton _ _).trans
    exact (ht.append he).cons _
/-- The nodes of a layout belong to its statements, one to each, and are of their kinds. -/
theorem link_labels (file : String) (b : List Stmt) (i k : Nat) (next : Int) :
    ((link i k next b).nodes.map Node.label).Perm ((declare file i b).map Statement.label) := by
  cases b with
  | nil => rfl
  | cons s b =>
    have hb := link_labels file b (i + stmtCount s) k next
    have hs := linkStmt_labels file s i (k + (link (i + stmtCount s) k next b).nodes.length)
      (link (i + stmtCount s) k next b).entry
    simp only [link, declare, List.map_append]
    exact (hb.append hs).trans List.perm_append_comm
end

end Block

/-- Some node that `cur` leads to belongs to statement number `j`. -/
def Graph.LeadsTo (g : Graph) (cur : Int) (j : Nat) : Prop :=
  ∃ x n, g.Reaches cur x ∧ g.node? x = some n ∧ n.parent = j

namespace Graph

variable {g : Graph}

theorem eq_noNode_of_reaches {x : Int} (h : g.Reaches noNode x) : x = noNode := by
  induction h with
  | refl => rfl
  | tail _ hedge ih =>
    obtain ⟨n, hn, -⟩ := hedge
    rw [ih, node?_noNode] at hn
    cases hn

theorem reaches_of_target {cur t x : Int} {n : Node} (hn : g.node? cur = some n)
    (ht : t ∈ n.targets) (h : g.Reaches t x) (hx : x ≠ noNode) : g.Reaches cur x := by
  have hne : t ≠ noNode := by
    rintro rfl
    exact hx (eq_noNode_of_reaches h)
  exact h.head ⟨n, hn, ht, hne⟩

theorem LeadsTo.of_target {cur t : Int} {j : Nat} {n : Node} (hn : g.node? cur = some n)
    (ht : t ∈ n.targets) (h : g.LeadsTo t j) : g.LeadsTo cur j := by
  obtain ⟨x, m, hx, hm, hj⟩ := h
  exact ⟨x, m, reaches_of_target hn ht hx (ne_noNode_of_node? hm), hm, hj⟩

theorem LeadsTo.of_reaches {cur mid : Int} {j : Nat} (hmid : g.Reaches cur mid)
    (h : g.LeadsTo mid j) : g.LeadsTo cur j := by
  obtain ⟨x, m, hx, hm, hj⟩ := h
  exact ⟨x, m, hmid.trans hx, hm, hj⟩

theorem LeadsTo.ne_noNode {cur : Int} {j : Nat} (h : g.LeadsTo cur j) : cur ≠ noNode := by
  rintro rfl
  obtain ⟨x, m, hx, hm, -⟩ := h
  exact ne_noNode_of_node? hm (eq_noNode_of_reaches hx)

end Graph

namespace Block

variable {g : Graph} {file : String}

mutual
theorem stmtThreaded_leadsTo (s : Stmt) (i : Nat) (cur next : Int)
    (h : StmtThreaded g file i cur next s) :
    (∀ j, i ≤ j → j < i + stmtCount s → g.LeadsTo cur j) ∧
      (next ≠ noNode → g.Reaches cur next) := by
  cases s with
  | assign target value | reply value =>
    obtain ⟨hn, -⟩ := h
    constructor
    · intro j hij hj
      have hji : j = i := by
        simp only [stmtCount] at hj
        omega
      exact ⟨cur, _, .refl, hn, by rw [hji]; rfl⟩
    · exact Graph.reaches_of_target hn List.mem_cons_self .refl
  | cond c t e =>
    obtain ⟨onTrue, onFalse, hn, -, ht, he⟩ := h
    obtain ⟨htrue, hnext⟩ := threaded_leadsTo t (i + 1) onTrue next ht
    obtain ⟨hfalse, -⟩ := threaded_leadsTo e (i + 1 + count t) onFalse next he
    have hmem : onFalse ∈ (Node.branch cur i onTrue onFalse).targets :=
      List.mem_cons_of_mem _ List.mem_cons_self
    constructor
    · intro j hij hj
      simp only [stmtCount] at hj
      -- The condition itself, a statement of the first branch, or one of the second.
      rcases Nat.lt_or_ge i j with hlt | hge
      · rcases Nat.lt_or_ge j (i + 1 + count t) with hjt | hjt
        · exact (htrue j (by omega) hjt).of_target hn List.mem_cons_self
        · exact (hfalse j hjt (by omega)).of_target hn hmem
      · have hji : j = i := by omega
        exact ⟨cur, _, .refl, hn, by rw [hji]; rfl⟩
    · intro hne
      exact Graph.reaches_of_target hn List.mem_cons_self (hnext hne) hne
/-- A walk through a block can be led to every statement of it, and on to what comes after. -/
theorem threaded_leadsTo (b : List Stmt) (i : Nat) (cur next : Int)
    (h : Threaded g file i cur next b) :
    (∀ j, i ≤ j → j < i + count b → g.LeadsTo cur j) ∧ (next ≠ noNode → g.Reaches cur next) := by
  cases b with
  | nil =>
    have hcur : cur = next := h
    constructor
    · intro j hij hj
      simp only [count] at hj
      omega
    · intro _
      exact hcur ▸ .refl
  | cons s b =>
    obtain ⟨mid, hs, hb⟩ := h
    obtain ⟨hfirst, hmid⟩ := stmtThreaded_leadsTo s i cur mid hs
    obtain ⟨hrest, hnext⟩ := threaded_leadsTo b (i + stmtCount s) mid next hb
    constructor
    · intro j hij hj
      simp only [count] at hj
      rcases Nat.lt_or_ge j (i + stmtCount s) with hlt | hge
      · exact hfirst j hij hlt
      · have hj' := hrest j hge (by omega)
        exact hj'.of_reaches (hmid hj'.ne_noNode)
    · intro hne
      have hreach := hnext hne
      have hmidne : mid ≠ noNode := by
        rintro rfl
        exact hne (Graph.eq_noNode_of_reaches hreach)
      exact (hmid hmidne).trans hreach
end

end Block

/-- The graph is the layout of a block. Its statements are those of the block in the order they are
written, with their numbers; its nodes are as many, all of them there, and belong to the statements one
by one; they point backwards; and all of them are reached from the last one, which is the entry. -/
structure Graph.LaysOut (g : Graph) (file : String) (b : List Stmt) : Prop where
  statements : g.statements = (Block.preorder b).mapIdx fun i s => s.statement file i
  length : g.nodes.length = (Block.preorder b).length
  full : ∀ p : Nat, g.nodes[p]? ≠ some none
  id : ∀ (p : Nat) (n : Node), g.nodes[p]? = some (some n) → n.id = p
  parent : ∀ (p : Nat) (n : Node), g.nodes[p]? = some (some n) →
    ∃ s, g.statement? n.parent = some s ∧ s.kind = Visitor.wantedKind n.kind
  unique : ∀ i : Nat, i < g.statements.length →
    ∃! p : Nat, ∃ n : Node, g.nodes[p]? = some (some n) ∧ n.parent = i
  targets : ∀ (p : Nat) (n : Node), g.nodes[p]? = some (some n) →
    ∀ t ∈ n.targets, t = noNode ∨ 0 ≤ t ∧ t < p
  entry : g.entry = (g.nodes.length : Int) - 1
  reached : ∀ p : Nat, p < g.nodes.length → g.Reaches g.entry p

namespace Block

section Graph

variable {file : String} {b : List Stmt}

theorem graph_statements (file : String) (b : List Stmt) :
    (graph file b).statements = (preorder b).mapIdx fun i s => s.statement file i := by
  have h := declare_eq_mapIdx file b 0
  simp only [Nat.zero_add] at h
  exact h

theorem graph_statement_id {i : Nat} {s : Statement}
    (h : (graph file b).statements[i]? = some s) : s.id = i := by
  rw [graph_statements, List.getElem?_mapIdx] at h
  obtain ⟨u, -, rfl⟩ := Option.map_eq_some_iff.mp h
  cases u <;> rfl

theorem graph_labels (file : String) (b : List Stmt) :
    ((link 0 0 noNode b).nodes.map Node.label).Perm
      ((graph file b).statements.map Statement.label) :=
  link_labels file b 0 0 noNode

theorem graph_getElem? {p : Nat} {n : Node} :
    (graph file b).nodes[p]? = some (some n) ↔ (link 0 0 noNode b).nodes[p]? = some n := by
  simp [graph, List.getElem?_map]

theorem graph_parent {p : Nat} {n : Node} (h : (graph file b).nodes[p]? = some (some n)) :
    ∃ s, (graph file b).statement? n.parent = some s ∧ s.kind = Visitor.wantedKind n.kind := by
  have hmem : n.label ∈ (graph file b).statements.map Statement.label := by
    apply (graph_labels file b).mem_iff.mp
    exact List.mem_map_of_mem (List.mem_of_getElem? (graph_getElem?.mp h))
  obtain ⟨s, hs, hlabel⟩ := List.mem_map.mp hmem
  obtain ⟨i, hi⟩ := List.getElem?_of_mem hs
  have hid : s.id = n.parent := congrArg Prod.fst hlabel
  have hkind : s.kind = Visitor.wantedKind n.kind := congrArg Prod.snd hlabel
  refine ⟨s, ?_, hkind⟩
  rw [← hid, graph_statement_id hi, Graph.statement?, at?_natCast]
  exact hi

/-- No two nodes of a layout belong to one statement. -/
theorem graph_parents_nodup (file : String) (b : List Stmt) :
    ((link 0 0 noNode b).nodes.map Node.parent).Nodup := by
  have hperm : ((link 0 0 noNode b).nodes.map Node.parent).Perm
      ((graph file b).statements.map Statement.id) := by
    have hlabels := (graph_labels file b).map Prod.fst
    rw [List.map_map, List.map_map] at hlabels
    exact hlabels
  have hids : (graph file b).statements.map Statement.id =
      (List.range (graph file b).statements.length).map Int.ofNat := by
    apply List.ext_getElem?
    intro i
    rw [List.getElem?_map, List.getElem?_map]
    cases hi : (graph file b).statements[i]? with
    | none =>
      rw [List.getElem?_eq_none (by simpa using List.getElem?_eq_none_iff.mp hi)]
      rfl
    | some s =>
      rw [List.getElem?_range (List.getElem?_eq_some_iff.mp hi).1]
      exact congrArg some (graph_statement_id hi)
  rw [hperm.nodup_iff, hids]
  exact List.Nodup.map (fun _ _ h => Int.ofNat.inj h) List.nodup_range

theorem graph_unique {i : Nat} (hi : i < (graph file b).statements.length) :
    ∃! p : Nat, ∃ n : Node, (graph file b).nodes[p]? = some (some n) ∧ n.parent = i := by
  obtain ⟨s, hs⟩ : ∃ s, (graph file b).statements[i]? = some s := ⟨_, List.getElem?_eq_getElem hi⟩
  have hmem : s.label ∈ (link 0 0 noNode b).nodes.map Node.label := by
    apply (graph_labels file b).mem_iff.mpr
    exact List.mem_map_of_mem (List.mem_of_getElem? hs)
  obtain ⟨n, hn, hlabel⟩ := List.mem_map.mp hmem
  obtain ⟨p, hp⟩ := List.getElem?_of_mem hn
  have hparent : n.parent = i := (congrArg Prod.fst hlabel).trans (graph_statement_id hs)
  refine ⟨p, ⟨n, graph_getElem?.mpr hp, hparent⟩, ?_⟩
  rintro q ⟨m, hq, hparent'⟩
  -- Both positions hold the same parent, and the parents are all different.
  have hq' : ((link 0 0 noNode b).nodes.map Node.parent)[q]? = some (i : Int) := by
    rw [List.getElem?_map, graph_getElem?.mp hq, Option.map_some, hparent']
  have hp' : ((link 0 0 noNode b).nodes.map Node.parent)[p]? = some (i : Int) := by
    rw [List.getElem?_map, hp, Option.map_some, hparent]
  have hlt := (List.getElem?_eq_some_iff.mp hq').1
  exact (List.getElem?_inj hlt (graph_parents_nodup file b)).mp (hq'.trans hp'.symm)

theorem graph_reached {p : Nat} (hp : p < (graph file b).nodes.length) :
    (graph file b).Reaches (graph file b).entry p := by
  obtain ⟨n, hn⟩ : ∃ n, (link 0 0 noNode b).nodes[p]? = some n :=
    ⟨_, List.getElem?_eq_getElem (by simpa [graph] using hp)⟩
  obtain ⟨s, hs, -⟩ := @graph_parent file b p n (graph_getElem?.mpr hn)
  obtain ⟨i, hi, hsi⟩ := at?_eq_some hs
  have hlt : i < (graph file b).statements.length := (List.getElem?_eq_some_iff.mp hsi).1
  -- The entry leads to some node of the statement, and there is only one.
  have hcount : i < 0 + count b := by
    rw [Nat.zero_add, ← length_declare file 0 b]
    exact hlt
  obtain ⟨x, m, hreach, hm, hmi⟩ :=
    (threaded_leadsTo b 0 _ noNode (graph_threaded file b)).1 i (Nat.zero_le i) hcount
  obtain ⟨q, rfl, hq⟩ := Graph.node?_eq_some hm
  have hqp : q = p := (graph_unique hlt).unique ⟨m, hq, hmi⟩ ⟨n, graph_getElem?.mpr hn, hi⟩
  exact hqp ▸ hreach

theorem graph_entry (file : String) (hb : b ≠ []) :
    (graph file b).entry = ((graph file b).nodes.length : Int) - 1 := by
  have hplaced := graph_placed file hb
  have hlength : (graph file b).nodes.length = (link 0 0 noNode b).nodes.length := List.length_map _
  rcases (link_laid b 0 0 noNode).2.2 with ⟨-, hentry⟩ | ⟨-, hentry⟩
  · have hin : Within (graph file b).nodes noNode := hentry ▸ hplaced.entry
    exact absurd hin (Graph.not_within_noNode _)
  · rw [hlength]
    simpa [graph] using hentry

theorem graph_laysOut (file : String) (hb : b ≠ []) : (graph file b).LaysOut file b where
  statements := graph_statements file b
  length := (length_graph_nodes file b).trans (length_preorder b).symm
  full := (graph_placed file hb).full
  id := fun _ _ hp => (graph_nodeLaid hp).id
  parent := fun _ _ hp => graph_parent hp
  unique := fun _ hi => graph_unique hi
  targets := fun _ _ hp => (graph_nodeLaid hp).targets
  entry := graph_entry file hb
  reached := fun _ hp => graph_reached hp

end Graph

end Block

/-- There is advice about the program, and none of it is that a node cannot be reached. -/
def Program.AllReached (p : Program) : Prop :=
  ∃ fs, p.lint? = some fs ∧ ∀ f ∈ fs, ∀ kind, f.advice ≠ .unreachable kind

theorem Program.allReached_of_laysOut {p : Program} {g : Graph} {file : String} {b : List Stmt}
    (hg : p.graph = some g) (hp : g.Placed) (h : g.LaysOut file b) : p.AllReached := by
  obtain ⟨nodes, hnodes, hlint⟩ := Program.lint?_of_placed hg hp
  refine ⟨_, hlint, ?_⟩
  intro f hf kind
  rcases (Lint.mem_findings hp).mp hf with ⟨n, hn, hreach, -⟩ | ⟨n, -, -, hf⟩
  · obtain ⟨i, hi⟩ := List.getElem?_of_mem hn
    have hslot : g.nodes[i]? = some (some n) := by rw [hnodes, List.getElem?_map, hi]; rfl
    have hlt : i < g.nodes.length := (List.getElem?_eq_some_iff.mp hslot).1
    rw [h.id i n hslot] at hreach
    exact absurd (h.reached i hlt) hreach
  · exact Lint.advice_of_mem_nodeAdvice hf kind

namespace Draft

theorem allReached_of_build {d : Draft} {p : Program} (h : d.build = .ok p) : p.AllReached := by
  obtain ⟨rfl, -, hbody⟩ := of_build_eq_ok h
  exact Program.allReached_of_laysOut rfl (Block.graph_placed d.file hbody)
    (Block.graph_laysOut d.file hbody)

/-- A draft builds exactly if it has a name and a body, and its graph is then the layout of the body.
Nothing is ever advised about nodes that cannot be reached, neither for a program that was built nor for
one that was read from a text. A builder of the draft builds the same, and so does the builder that is
left, whatever numbers its statements carry. -/
theorem build_shape (d : Draft) :
    ((∃ p, d.build = .ok p) ↔ d.name ≠ "" ∧ d.body ≠ []) ∧
    (∀ p, d.build = .ok p → p.name = d.name ∧ p.version = d.version ∧ p.input = d.input ∧
      (∃ g, p.graph = some g ∧ g.LaysOut d.file d.body) ∧ p.AllReached) ∧
    (∀ file text p, Source.parse file text = .ok p → p.AllReached) ∧
    ∀ b : Builder, b.draft = d → b.build.2 = d.build ∧ b.build.1.build.2 = d.build := by
  refine ⟨⟨?_, ?_⟩, ?_, ?_, ?_⟩
  · rintro ⟨p, hp⟩
    exact (of_build_eq_ok hp).2
  · rintro ⟨hname, hbody⟩
    exact ⟨d.program, build_eq_ok hname hbody⟩
  · intro p hp
    have hreached := allReached_of_build hp
    obtain ⟨rfl, -, hbody⟩ := of_build_eq_ok hp
    exact ⟨rfl, rfl, rfl, ⟨_, rfl, Block.graph_laysOut d.file hbody⟩, hreached⟩
  · intro file text p hp
    obtain ⟨d', hbuild, -⟩ := Source.parse_eq_ok hp
    exact allReached_of_build hbuild
  · rintro b rfl
    obtain ⟨hbuild, hdraft⟩ := b.build_eq
    obtain ⟨hagain, -⟩ := b.build.1.build_eq
    exact ⟨hbuild, hagain.trans (by rw [hdraft])⟩

end Draft
end Courier
