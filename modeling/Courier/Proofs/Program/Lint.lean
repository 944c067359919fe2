import Courier.Program.Lint
import Courier.Proofs.Graph.Cycle

/-! What the advice about a program rests on.
The crawl from the entry of a placed graph visits exactly the nodes that the entry leads to, and so a
finding is about a node that is not reached, or about an expression of one that is. -/
namespace Courier

namespace Lint

/-- A crawl that has still to take the nodes of a queue. Whatever a visited node leads to is visited or
waits in the queue. -/
structure Crawl.Sound (g : Graph) (queue : List Int) (c : Crawl) : Prop where
  nodup : c.visited.Nodup
  within : ∀ x ∈ c.visited, Within g.nodes x
  queued : ∀ x ∈ queue, x = noNode ∨ Within g.nodes x ∧ g.Reaches g.entry x
  reached : ∀ x ∈ c.visited, g.Reaches g.entry x
  entered : g.entry ∈ c.visited ∨ g.entry ∈ queue
  closed : ∀ x ∈ c.visited, ∀ y, g.Edge x y → y ∈ c.visited ∨ y ∈ queue
  missing : c.missing = []

namespace Crawl.Sound

variable {g : Graph} {id : Int} {queue : List Int} {c : Crawl}

theorem start (hp : g.Placed) : Crawl.Sound g [g.entry] ⟨[], [], []⟩ where
  nodup := List.nodup_nil
  within := fun x hx => absurd hx List.not_mem_nil
  queued := by
    intro x hx
    rw [List.mem_singleton.mp hx]
    exact .inr ⟨hp.entry, .refl⟩
  reached := fun x hx => absurd hx List.not_mem_nil
  entered := .inr List.mem_cons_self
  closed := fun x hx => absurd hx List.not_mem_nil
  missing := rfl

/-- A queued position that is no node or was visited before is left out. -/
theorem skip (hp : g.Placed) (h : Crawl.Sound g (id :: queue) c)
    (hskip : id = noNode ∨ id ∈ c.visited) : Crawl.Sound g queue c := by
  -- What was in the queue and is no longer has been visited.
  have hleft : ∀ y, y ≠ noNode → y ∈ c.visited ∨ y ∈ id :: queue → y ∈ c.visited ∨ y ∈ queue := by
    intro y hy hmem
    rcases hmem with hmem | hmem
    · exact .inl hmem
    rcases List.mem_cons.mp hmem with rfl | hmem
    · exact .inl (hskip.resolve_left hy)
    · exact .inr hmem
  have hentry : g.entry ≠ noNode := by
    intro heq
    exact Graph.not_within_noNode g.nodes (heq ▸ hp.entry)
  refine ⟨h.nodup, h.within, ?_, h.reached, ?_, ?_, h.missing⟩
  · intro x hx
    exact h.queued x (List.mem_cons_of_mem id hx)
  · exact hleft g.entry hentry h.entered
  · intro x hx y hxy
    have hne : y ≠ noNode := by
      obtain ⟨n, -, -, hne⟩ := hxy
      exact hne
    exact hleft y hne (h.closed x hx y hxy)

/-- A queued node that is new is visited, and its successors are queued unless they were visited. -/
theorem visit (hp : g.Placed) (h : Crawl.Sound g (id :: queue) c) (hid : id ≠ noNode)
    (hnew : id ∉ c.visited) {n : Node} (hn : g.node? id = some n) (assigned : List String) :
    Crawl.Sound g (queue ++ n.targets.filter fun t => t ∉ id :: c.visited)
      { c with visited := id :: c.visited, assigned } := by
  obtain ⟨hin, hreach⟩ := (h.queued id List.mem_cons_self).resolve_left hid
  obtain ⟨k, -, hplaced⟩ := hp.nodePlaced hn
  -- What was waiting before is the node itself or waits still.
  have hwaits : ∀ y, y ∈ c.visited ∨ y ∈ id :: queue → y ∈ id :: c.visited ∨
      y ∈ queue ++ n.targets.filter fun t => t ∉ id :: c.visited := by
    intro y hmem
    rcases hmem with hmem | hmem
    · exact .inl (List.mem_cons_of_mem id hmem)
    rcases List.mem_cons.mp hmem with rfl | hmem
    · exact .inl List.mem_cons_self
    · exact .inr (List.mem_append_left _ hmem)
  refine ⟨List.nodup_cons.mpr ⟨hnew, h.nodup⟩, List.forall_mem_cons.mpr ⟨hin, h.within⟩, ?_,
    List.forall_mem_cons.mpr ⟨hreach, h.reached⟩, hwaits g.entry h.entered, ?_, h.missing⟩
  · intro x hx
    rcases List.mem_append.mp hx with hx | hx
    · exact h.queued x (List.mem_cons_of_mem id hx)
    have hmem : x ∈ n.targets := (List.mem_filter.mp hx).1
    by_cases hne : x = noNode
    · exact .inl hne
    · exact .inr ⟨(hplaced.targets x hmem).resolve_left hne, hreach.tail ⟨n, hn, hmem, hne⟩⟩
  · intro x hx y hxy
    rcases List.mem_cons.mp hx with rfl | hx
    · -- The successors of the new node are visited already or put into the queue now.
      obtain ⟨n', hn', hmem, -⟩ := hxy
      rw [hn] at hn'
      cases hn'
      by_cases hy : y ∈ x :: c.visited
      · exact .inl hy
      · exact .inr (List.mem_append_right queue (List.mem_filter.mpr ⟨hmem, decide_eq_true hy⟩))
    · exact hwaits y (h.closed x hx y hxy)

/-- An empty queue leaves nothing out that the entry leads to. -/
theorem mem_visited (h : Crawl.Sound g [] c) {x : Int} : x ∈ c.visited ↔ g.Reaches g.entry x := by
  constructor
  · exact h.reached x
  · intro hx
    induction hx with
    | refl => exact h.entered.resolve_right List.not_mem_nil
    | @tail y z _ hyz ih => exact (h.closed y ih z hyz).resolve_right List.not_mem_nil

end Crawl.Sound

theorem length_targets_le (n : Node) : n.targets.length ≤ 2 := by
  cases n <;> simp [Node.targets]

/-- The name that a node's statement assigns, if it assigns one. -/
def assignedBy (g : Graph) (n : Node) : List String :=
  match g.statement? n.parent with
  | some s => if s.kind = .assign then [s.target] else []
  | none => []

theorem assignedBy_append (g : Graph) (n : Node) (names : List String) :
    assignedBy g n ++ names = match g.statement? n.parent with
      | some s => if s.kind = .assign then s.target :: names else names
      | none => names := by
  unfold assignedBy
  cases g.statement? n.parent with
  | none => rfl
  | some s =>
    dsimp only
    split_ifs
    · rfl
    · rfl

/-- The crawl without a bound on its steps. It goes on only at nodes that are there. -/
inductive Crawls (g : Graph) : List Int → Crawl → Crawl → Prop
  | done {c} : Crawls g [] c c
  | skip {id queue c d} (hid : id = noNode ∨ id ∈ c.visited) (hrest : Crawls g queue c d) :
      Crawls g (id :: queue) c d
  | visit {id queue c d} {n : Node} (hid : id ≠ noNode) (hnew : id ∉ c.visited)
      (hn : g.node? id = some n)
      (hrest : Crawls g (queue ++ n.targets.filter fun t => t ∉ id :: c.visited)
        { c with visited := id :: c.visited, assigned := assignedBy g n ++ c.assigned } d) :
      Crawls g (id :: queue) c d

theorem Crawls.sound {g : Graph} {queue : List Int} {c d : Crawl} (h : Crawls g queue c d)
    (hp : g.Placed) (hc : c.Sound g queue) : d.Sound g [] := by
  induction h with
  | done => exact hc
  | skip hid _ ih => exact ih (hc.skip hp hid)
  | visit hid hnew hn _ ih => exact ih (hc.visit hp hid hnew hn _)

/-- The bound on the steps of the crawl never cuts it short: a visited node takes one position from
those that are left, and puts no more than two into the queue. -/
theorem crawls_crawl {g : Graph} (hp : g.Placed) (fuel : Nat) (queue : List Int) (c : Crawl)
    (h : c.Sound g queue)
    (hfuel : queue.length + 2 * (g.nodes.length - c.visited.length) ≤ fuel) :
    Crawls g queue c (crawl g fuel queue c) := by
  fun_induction crawl g fuel queue c with
  | case1 queue c =>
    have hempty : queue = [] := List.eq_nil_of_length_eq_zero (by omega)
    exact hempty ▸ .done
  | case2 => exact .done
  | case3 fuel id queue c hskip ih =>
    rw [List.length_cons] at hfuel
    exact .skip hskip (ih (h.skip hp hskip) (by omega))
  | case4 fuel id queue c hskip visited hnone ih =>
    -- A queued position of a placed graph holds a node.
    obtain ⟨hne, -⟩ := not_or.mp hskip
    obtain ⟨hin, -⟩ := (h.queued id List.mem_cons_self).resolve_left hne
    obtain ⟨n, hn⟩ := hp.node?_of_within hin
    rw [hnone] at hn
    cases hn
  | case5 fuel id queue c hskip visited n hn assigned fresh ih =>
    obtain ⟨hne, hnew⟩ := not_or.mp hskip
    have hnext := h.visit hp hne hnew hn assigned
    have hroom : visited.length ≤ g.nodes.length :=
      Graph.length_le_of_nodup_within hnext.nodup hnext.within
    have hfresh : fresh.length ≤ 2 :=
      Nat.le_trans (List.length_filter_le _ _) (length_targets_le n)
    have hvisited : visited.length = c.visited.length + 1 := List.length_cons
    have hassigned : assigned = assignedBy g n ++ c.assigned :=
      (assignedBy_append g n c.assigned).symm
    rw [List.length_cons] at hfuel
    have hleft : (queue ++ fresh).length + 2 * (g.nodes.length - visited.length) ≤ fuel := by
      rw [List.length_append]
      omega
    have hrest := ih hnext hleft
    rw [hassigned] at hrest ⊢
    exact .visit hne hnew hn hrest

/-- The crawl from the entry of a placed graph comes to an end by itself. -/
theorem crawls_reach {g : Graph} (hp : g.Placed) :
    Crawls g [g.entry] ⟨[], [], []⟩ (reach g) := by
  apply crawls_crawl hp _ _ _ (.start hp)
  simp only [List.length_cons, List.length_nil]
  omega

theorem reach_sound {g : Graph} (hp : g.Placed) : (reach g).Sound g [] :=
  (crawls_reach hp).sound hp (.start hp)

/-- The findings about a placed graph: the nodes that the entry does not lead to, and the advice about
the statements of the others. -/
theorem mem_findings {g : Graph} (hp : g.Placed) {nodes : List Node} {input : Schema} {f : Finding} :
    f ∈ findings g nodes input ↔
      (∃ n ∈ nodes, ¬ g.Reaches g.entry n.id ∧ f = ⟨n.id, .unreachable n.kind⟩) ∨
        ∃ n ∈ nodes, g.Reaches g.entry n.id ∧ f ∈ nodeAdvice g input (reach g).assigned n := by
  have hsound := reach_sound hp
  simp only [findings, List.mem_mergeSort, hsound.missing, List.map_nil, List.nil_append,
    List.mem_append, List.mem_map, List.mem_flatMap, List.mem_filter, decide_eq_true_eq,
    hsound.mem_visited]
  constructor
  · rintro (⟨n, ⟨hn, hreach⟩, rfl⟩ | ⟨n, ⟨hn, hreach⟩, hf⟩)
    · exact .inl ⟨n, hn, hreach, rfl⟩
    · exact .inr ⟨n, hn, hreach, hf⟩
  · rintro (⟨n, hn, hreach, rfl⟩ | ⟨n, hn, hreach, hf⟩)
    · exact .inl ⟨n, ⟨hn, hreach⟩, rfl⟩
    · exact .inr ⟨n, ⟨hn, hreach⟩, hf⟩

theorem advice_of_mem_nodeAdvice {g : Graph} {input : Schema} {assigned : List String}
    {n : Node} {f : Finding} (h : f ∈ nodeAdvice g input assigned n) (kind : NodeKind) :
    f.advice ≠ .unreachable kind := by
  -- Expressions are advised on for their names and fields only.
  have hexpr (e : Expr) (a : Advice) (ha : a ∈ exprAdvice input assigned e) :
      a ≠ .unreachable kind := by
    obtain ⟨t, -, ht⟩ := List.mem_filterMap.mp ha
    split at ht
    · split_ifs at ht
      cases ht
      nofun
    · dsimp only at ht
      split_ifs at ht
      cases ht
      nofun
    · cases ht
  unfold nodeAdvice at h
  split at h
  · obtain ⟨a, ha, rfl⟩ := List.mem_map.mp h
    rcases List.mem_append.mp ha with ha | ha
    · exact hexpr _ a ha
    · exact hexpr _ a ha
  · cases h

end Lint

/-- There is advice about every program whose graph is placed. -/
theorem Program.lint?_of_placed {p : Program} {g : Graph} (hg : p.graph = some g) (hp : g.Placed) :
    ∃ nodes, g.nodes = nodes.map some ∧ p.lint? = some (Lint.findings g nodes p.schema) := by
  obtain ⟨nodes, hnodes⟩ := hp.exists_nodes
  refine ⟨nodes, hnodes, ?_⟩
  simp only [Program.lint?, hg, hnodes, mapM_id_map_some]

/-- Where nothing is advised about a program, nothing is advised about a node that its entry leads to. -/
theorem Lint.nodeAdvice_of_quiet {p : Program} {g : Graph} (hg : p.graph = some g) (hp : g.Placed)
    (hlint : p.lint? = some []) {cur : Int} {n : Node} (hn : g.node? cur = some n)
    (hreach : g.Reaches g.entry cur) : nodeAdvice g p.schema (reach g).assigned n = [] := by
  obtain ⟨nodes, hnodes, hfindings⟩ := Program.lint?_of_placed hg hp
  rw [hlint] at hfindings
  obtain ⟨k, rfl, hk⟩ := Graph.node?_eq_some hn
  have hid : n.id = k := (hp.nodes k n hk).id
  have hmem : n ∈ nodes := by
    rw [hnodes] at hk
    simpa using List.mem_of_getElem? hk
  apply List.eq_nil_iff_forall_not_mem.mpr
  intro finding hfinding
  have hall := (mem_findings hp).mpr (.inr ⟨n, hmem, hid ▸ hreach, hfinding⟩)
  rw [← Option.some.inj hfindings] at hall
  cases hall

end Courier
