import Courier.Proofs.Program.Lint
import Courier.Proofs.Run.Lookup
import Mathlib.Data.List.Count

/-! What is advised about a program, finding by finding.
The findings stand in the order of their nodes, and the sort that puts them there keeps those about one
node in the order in which they were found. So they can be told node by node: a node that the entry does
not lead to has one finding, and any other has one for each reading of a variable that no such node
assigns. -/
namespace Courier

/-- A node that the entry leads to belongs to a statement that assigns the name. -/
def Graph.Assigns (g : Graph) (x : String) : Prop :=
  ∃ id n s, g.Reaches g.entry id ∧ g.node? id = some n ∧ g.statement? n.parent = some s ∧
    s.kind = .assign ∧ s.target = x

namespace Expr

mutual
/-- How often a variable is read in an expression. Below an empty one nothing is read. -/
def readings (x : String) : Expr → Nat
  | .apply op args =>
    match op with
    | .empty => 0
    | .var y => (if y = x then 1 else 0) + readingsAll x args
    | _ => readingsAll x args
def readingsAll (x : String) : List Expr → Nat
  | [] => 0
  | e :: es => e.readings x + readingsAll x es
end

end Expr

/-- A sort that is given a list keeps those elements in their order that it does not tell apart. -/
theorem filter_mergeSort {α : Type} {le : α → α → Bool}
    (htrans : ∀ a b c, le a b = true → le b c = true → le a c = true)
    (htotal : ∀ a b, (le a b || le b a) = true) (xs : List α) {p : α → Bool}
    (hp : ∀ a b, p a = true → p b = true → le a b = true) :
    (xs.mergeSort le).filter p = xs.filter p := by
  have hsorted : (xs.filter p).Pairwise fun a b => le a b = true := by
    apply List.pairwise_of_forall_mem_list
    intro a ha b hb
    exact hp a b (List.mem_filter.mp ha).2 (List.mem_filter.mp hb).2
  have hsub : (xs.filter p).Sublist (xs.mergeSort le) :=
    List.sublist_mergeSort htrans htotal hsorted List.filter_sublist
  have hkept : (xs.filter p).Sublist ((xs.mergeSort le).filter p) := by
    have hfilter := hsub.filter p
    rwa [List.filter_filter, List.filter_congr fun a _ => Bool.and_self (p a)] at hfilter
  -- There are as many of them before and after, so none has come in between.
  have hlength : (xs.filter p).length = ((xs.mergeSort le).filter p).length :=
    ((List.mergeSort_perm xs le).filter p).length_eq.symm
  exact (hkept.eq_of_length hlength).symm

namespace Lint

variable {g : Graph} {input : Schema} {assigned : List String}

theorem Crawls.mem_assigned {queue : List Int} {c d : Crawl} (h : Crawls g queue c d)
    (hc : ∀ x, x ∈ c.assigned ↔ ∃ id ∈ c.visited, ∃ n, g.node? id = some n ∧ x ∈ assignedBy g n)
    (x : String) :
    x ∈ d.assigned ↔ ∃ id ∈ d.visited, ∃ n, g.node? id = some n ∧ x ∈ assignedBy g n := by
  induction h with
  | done => exact hc x
  | skip _ _ ih => exact ih hc
  | @visit id queue c d n _ _ hn _ ih =>
    apply ih
    intro y
    rw [List.mem_append, hc y]
    constructor
    · rintro (hy | ⟨id', hid', hassigns⟩)
      · exact ⟨id, List.mem_cons_self, n, hn, hy⟩
      · exact ⟨id', List.mem_cons_of_mem id hid', hassigns⟩
    · rintro ⟨id', hid', n', hn', hy⟩
      rcases List.mem_cons.mp hid' with rfl | hid'
      · rw [hn] at hn'
        cases hn'
        exact .inl hy
      · exact .inr ⟨id', hid', n', hn', hy⟩

theorem mem_assignedBy {n : Node} {x : String} :
    x ∈ assignedBy g n ↔ ∃ s, g.statement? n.parent = some s ∧ s.kind = .assign ∧ s.target = x := by
  unfold assignedBy
  cases g.statement? n.parent with
  | none => simp
  | some s =>
    by_cases hk : s.kind = .assign
    · simp [hk, eq_comm]
    · simp [hk]

/-- The crawl knows exactly the names that are assigned by nodes the entry leads to. -/
theorem mem_assigned_reach (hp : g.Placed) {x : String} : x ∈ (reach g).assigned ↔ g.Assigns x := by
  have hstart : ∀ y : String, y ∈ ([] : List String) ↔
      ∃ id ∈ ([] : List Int), ∃ n, g.node? id = some n ∧ y ∈ assignedBy g n := by simp
  rw [(crawls_reach hp).mem_assigned hstart x]
  constructor
  · rintro ⟨id, hid, n, hn, hx⟩
    obtain ⟨s, hs, hk, ht⟩ := mem_assignedBy.mp hx
    exact ⟨id, n, s, (reach_sound hp).mem_visited.mp hid, hn, hs, hk, ht⟩
  · rintro ⟨id, n, s, hreach, hn, hs, hk, ht⟩
    exact ⟨id, (reach_sound hp).mem_visited.mpr hreach, n, hn, mem_assignedBy.mpr ⟨s, hs, hk, ht⟩⟩

/-- What is advised about one expression without a look inside. -/
def termAdvice (input : Schema) (assigned : List String) (t : Expr) : Option Advice :=
  match t.op with
  | .var x => if x ∈ assigned then none else some (.unassigned x)
  | .field path =>
    let root := String.ofList (Text.cutChars '.' path.toList).1
    if input.isEmpty ∨ input.contains root ∨ input.contains (root ++ "?") then none
    else some (.undeclared root)
  | _ => none

theorem exprAdvice_eq (e : Expr) :
    exprAdvice input assigned e = e.subterms.filterMap (termAdvice input assigned) := rfl

theorem unassigned_mem_exprAdvice {x : String} {e : Expr}
    (h : .unassigned x ∈ exprAdvice input assigned e) : x ∉ assigned := by
  rw [exprAdvice_eq] at h
  obtain ⟨t, -, ht⟩ := List.mem_filterMap.mp h
  unfold termAdvice at ht
  split at ht
  · split_ifs at ht with hx
    cases ht
    exact hx
  · dsimp only at ht
    split_ifs at ht
    cases ht
  · cases ht

theorem filterMap_eq_append {α β : Type} (f : α → Option β) (a : α) (as : List α) :
    (a :: as).filterMap f = (f a).toList ++ as.filterMap f := by
  rw [List.filterMap_cons]
  cases f a with
  | none => rfl
  | some b => rfl

/-- A variable that nothing assigns is advised about where it is read. -/
theorem count_termAdvice {x : String} (hx : x ∉ assigned) (op : Op) (args : List Expr) :
    (termAdvice input assigned (.apply op args)).toList.count (.unassigned x) =
      match op with
      | .var y => if y = x then 1 else 0
      | _ => 0 := by
  cases op with
  | var y =>
    change (if y ∈ assigned then none else some (Advice.unassigned y)).toList.count _ = _
    by_cases hy : y = x
    · subst hy
      simp [hx]
    · -- Another variable may be advised about, but not under this name.
      split_ifs
      · simp [hy]
      · simp [hy]
  | field path =>
    simp only [termAdvice, Expr.op]
    split_ifs <;> simp
  | empty | lit | eq | not | unknown => rfl

mutual

/-- There is advice about a variable that nothing assigns as often as it is read. -/
theorem count_exprAdvice {x : String} (hx : x ∉ assigned) (e : Expr) :
    (exprAdvice input assigned e).count (.unassigned x) = e.readings x := by
  match e with
  | .apply op args =>
    have hargs := count_subtermsAll hx args
    have hhead : (termAdvice input assigned (.apply op args)).toList.count (.unassigned x) = _ :=
      count_termAdvice hx op args
    rw [exprAdvice_eq]
    cases op with
    | empty => rfl
    | lit | var | field | eq | not | unknown =>
      rw [Expr.subterms, filterMap_eq_append, List.count_append, hhead, hargs, Expr.readings]
      all_goals simp

theorem count_subtermsAll {x : String} (hx : x ∉ assigned) (es : List Expr) :
    ((Expr.subtermsAll es).filterMap (termAdvice input assigned)).count (.unassigned x) =
      Expr.readingsAll x es := by
  match es with
  | [] => rfl
  | e :: es =>
    have hfirst := count_exprAdvice hx e
    have hrest := count_subtermsAll hx es
    rw [exprAdvice_eq] at hfirst
    rw [Expr.subtermsAll, List.filterMap_append, List.count_append, hfirst, hrest, Expr.readingsAll]

end

/-- Where nodes carry their positions as ids, one alone has the id of its position. -/
theorem filter_id {nodes : List Node} {i k : Nat} {n : Node}
    (hids : ∀ (j : Nat) m, nodes[j]? = some m → m.id = (i : Int) + j) (hn : nodes[k]? = some n) :
    nodes.filter (fun m => m.id = (i : Int) + k) = [n] := by
  induction nodes generalizing i k with
  | nil => cases hn
  | cons a nodes ih =>
    have ha : a.id = i := (hids 0 a rfl).trans (Int.add_zero _)
    have hrest : ∀ (j : Nat) m, nodes[j]? = some m → m.id = ((i + 1 : Nat) : Int) + j := by
      intro j m hm
      have hid := hids (j + 1) m hm
      omega
    cases k with
    | zero =>
      obtain rfl : a = n := Option.some.inj hn
      have hnone : nodes.filter (fun m => m.id = (i : Int) + (0 : Nat)) = [] := by
        apply List.filter_eq_nil_iff.mpr
        intro m hm
        obtain ⟨j, hj⟩ := List.getElem?_of_mem hm
        have hid := hrest j m hj
        simp only [decide_eq_true_eq]
        omega
      rw [List.filter_cons_of_pos (by simpa using ha), hnone]
    | succ k =>
      have hskip : ¬ a.id = (i : Int) + (k + 1 : Nat) := by omega
      have hfound := ih hrest (k := k) hn
      rw [List.filter_cons_of_neg (by simpa using hskip), ← hfound]
      apply List.filter_congr
      intro m _
      rw [show (i : Int) + (k + 1 : Nat) = ((i + 1 : Nat) : Int) + k by omega]

theorem filter_flatMap_of_key {α β : Type} {f : α → List β} {p : α → Bool} {q : β → Bool}
    (h : ∀ a, ∀ b ∈ f a, q b = p a) (as : List α) :
    (as.flatMap f).filter q = (as.filter p).flatMap f := by
  induction as with
  | nil => rfl
  | cons a as ih =>
    rw [List.flatMap_cons, List.filter_append, ih]
    cases hp : p a with
    | true =>
      have hall : (f a).filter q = f a :=
        List.filter_eq_self.mpr fun b hb => (h a b hb).trans hp
      rw [List.filter_cons_of_pos hp, List.flatMap_cons, hall]
    | false =>
      have hnone : (f a).filter q = [] := by
        apply List.filter_eq_nil_iff.mpr
        intro b hb
        rw [h a b hb, hp]
        exact Bool.false_ne_true
      rw [List.filter_cons_of_neg (by rw [hp]; exact Bool.false_ne_true), hnone, List.nil_append]

theorem node_of_mem_nodeAdvice {n : Node} {f : Finding} (h : f ∈ nodeAdvice g input assigned n) :
    f.node = n.id := by
  unfold nodeAdvice at h
  split at h
  · obtain ⟨a, -, rfl⟩ := List.mem_map.mp h
    rfl
  · cases h

theorem node_le_trans (a b c : Finding) (hab : decide (a.node ≤ b.node) = true)
    (hbc : decide (b.node ≤ c.node) = true) : decide (a.node ≤ c.node) = true := by
  simp only [decide_eq_true_eq] at hab hbc ⊢
  exact Int.le_trans hab hbc

theorem node_le_total (a b : Finding) :
    (decide (a.node ≤ b.node) || decide (b.node ≤ a.node)) = true := by
  simp only [Bool.or_eq_true, decide_eq_true_eq]
  exact Int.le_total a.node b.node

/-- The findings about the node at one position, in the order in which they are told. -/
theorem filter_findings (hp : g.Placed) {nodes : List Node} (hnodes : g.nodes = nodes.map some)
    {k : Nat} {n : Node} (hn : nodes[k]? = some n) :
    (findings g nodes input).filter (fun f => f.node = (k : Int)) =
      if (k : Int) ∈ (reach g).visited then nodeAdvice g input (reach g).assigned n
      else [⟨k, .unreachable n.kind⟩] := by
  have hids : ∀ (j : Nat) m, nodes[j]? = some m → m.id = ((0 : Nat) : Int) + j := by
    intro j m hm
    have hslot : g.nodes[j]? = some (some m) := by rw [hnodes, List.getElem?_map, hm]; rfl
    have hid := (hp.nodes j m hslot).id
    omega
  have hid : n.id = (k : Int) := (hids k n hn).trans (Int.zero_add _)
  have hone : nodes.filter (fun m => m.id = (k : Int)) = [n] := by
    have hfilter := filter_id hids hn
    rwa [Int.natCast_zero, Int.zero_add] at hfilter
  have hstable := filter_mergeSort (p := fun f => decide (f.node = (k : Int))) node_le_trans
    node_le_total
  have hunreached : ((nodes.filter fun m => m.id ∉ (reach g).visited).map
      fun m => (⟨m.id, .unreachable m.kind⟩ : Finding)).filter (fun f => f.node = (k : Int)) =
      ([n].filter fun m => m.id ∉ (reach g).visited).map fun m => ⟨m.id, .unreachable m.kind⟩ := by
    rw [← hone, List.filter_map, List.filter_filter, List.filter_filter]
    congr 1
    apply List.filter_congr
    intro m _
    exact Bool.and_comm _ _
  have hreached : ((nodes.filter fun m => m.id ∈ (reach g).visited).flatMap
      (nodeAdvice g input (reach g).assigned)).filter (fun f => f.node = (k : Int)) =
      ([n].filter fun m => m.id ∈ (reach g).visited).flatMap
        (nodeAdvice g input (reach g).assigned) := by
    rw [← hone, filter_flatMap_of_key (p := fun m => decide (m.id = (k : Int))), List.filter_filter,
      List.filter_filter]
    · congr 1
      apply List.filter_congr
      intro m _
      exact Bool.and_comm _ _
    · intro m f hf
      rw [node_of_mem_nodeAdvice hf]
  rw [findings, hstable]
  · rw [(reach_sound hp).missing, List.map_nil, List.nil_append, List.filter_append, hunreached,
      hreached]
    -- One of the two parts is about the node and the other is empty.
    by_cases hvisited : (k : Int) ∈ (reach g).visited
    · simp [hid, hvisited]
    · simp [hid, hvisited]
  · intro a b ha hb
    simp only [decide_eq_true_eq] at ha hb ⊢
    omega

/-- The advice about a node reads the value of its statement first and then the condition. -/
theorem nodeAdvice_eq {n : Node} {s : Statement} (hs : g.statement? n.parent = some s) :
    nodeAdvice g input assigned n =
      (exprAdvice input assigned s.value ++ exprAdvice input assigned s.cond).map (⟨n.id, ·⟩) := by
  rw [nodeAdvice, hs]

theorem unassigned_mem_nodeAdvice {n : Node} {id : Int} {x : String}
    (h : (⟨id, .unassigned x⟩ : Finding) ∈ nodeAdvice g input assigned n) : x ∉ assigned := by
  unfold nodeAdvice at h
  split at h
  · obtain ⟨a, ha, heq⟩ := List.mem_map.mp h
    cases heq
    rcases List.mem_append.mp ha with ha | ha
    · exact unassigned_mem_exprAdvice ha
    · exact unassigned_mem_exprAdvice ha
  · cases h

theorem count_nodeAdvice {n : Node} {s : Statement} (hs : g.statement? n.parent = some s) {x : String}
    (hx : x ∉ assigned) : (nodeAdvice g input assigned n).count ⟨n.id, .unassigned x⟩ =
      s.value.readings x + s.cond.readings x := by
  have hinj : Function.Injective fun a : Advice => (⟨n.id, a⟩ : Finding) := by
    intro a b hab
    exact (Finding.mk.inj hab).2
  have hcount := List.count_map_of_injective
    (exprAdvice input assigned s.value ++ exprAdvice input assigned s.cond) _ hinj (.unassigned x)
  rw [nodeAdvice_eq hs, hcount, List.count_append, count_exprAdvice hx, count_exprAdvice hx]

theorem node?_of_mem (hp : g.Placed) {nodes : List Node} (hnodes : g.nodes = nodes.map some) {n : Node}
    (hn : n ∈ nodes) : g.node? n.id = some n := by
  obtain ⟨k, hk⟩ := List.getElem?_of_mem hn
  have hslot : g.nodes[k]? = some (some n) := by rw [hnodes, List.getElem?_map, hk]; rfl
  rw [(hp.nodes k n hslot).id, Graph.node?_natCast, hslot]
  rfl

theorem node?_of_mem_findings (hp : g.Placed) {nodes : List Node} (hnodes : g.nodes = nodes.map some)
    {f : Finding} (h : f ∈ findings g nodes input) : ∃ n, g.node? f.node = some n := by
  rcases (mem_findings hp).mp h with ⟨n, hn, -, rfl⟩ | ⟨n, hn, -, hf⟩
  · exact ⟨n, node?_of_mem hp hnodes hn⟩
  · rw [node_of_mem_nodeAdvice hf]
    exact ⟨n, node?_of_mem hp hnodes hn⟩

/-- The findings about a node, told by its place in the graph. -/
theorem filter_findings_of_node? (hp : g.Placed) {nodes : List Node} (hnodes : g.nodes = nodes.map some)
    {id : Int} {n : Node} (hn : g.node? id = some n) :
    (g.Reaches g.entry id → (findings g nodes input).filter (fun f => f.node = id) =
      nodeAdvice g input (reach g).assigned n) ∧
    (¬ g.Reaches g.entry id → (findings g nodes input).filter (fun f => f.node = id) =
      [⟨id, .unreachable n.kind⟩]) := by
  obtain ⟨k, rfl, hk⟩ := Graph.node?_eq_some hn
  have hslot : nodes[k]? = some n := by
    rw [hnodes, List.getElem?_map] at hk
    obtain ⟨m, hm, heq⟩ := Option.map_eq_some_iff.mp hk
    rw [hm, Option.some.inj heq]
  have hvisited := (reach_sound hp).mem_visited (x := k)
  rw [filter_findings hp hnodes hslot]
  exact ⟨fun hreach => if_pos (hvisited.mpr hreach), fun hreach => if_neg (mt hvisited.mp hreach)⟩

end Lint

/-- Where nothing is advised about a program, the variables that its nodes read are assigned. -/
theorem Graph.assigns_of_quiet {p : Program} {g : Graph} (hg : p.graph = some g) (hp : g.Placed)
    (hlint : p.lint? = some []) {cur : Int} {n : Node} (hn : g.node? cur = some n)
    (hreach : g.Reaches g.entry cur) {s : Statement} (hs : g.statement? n.parent = some s) {x : String}
    (hreads : s.value.Holds (.var x) ∨ s.cond.Holds (.var x)) : g.Assigns x := by
  have hquiet := Lint.nodeAdvice_of_quiet hg hp hlint hn hreach
  rw [Lint.nodeAdvice_eq hs, List.map_eq_nil_iff, List.append_eq_nil_iff] at hquiet
  have hexpr (e : Expr) (he : Lint.exprAdvice p.schema (Lint.reach g).assigned e = [])
      (hholds : e.Holds (.var x)) : g.Assigns x := by
    obtain ⟨t, ht, hvar⟩ := hholds
    rw [Lint.exprAdvice_eq] at he
    have hnone := List.filterMap_eq_nil_iff.mp he t ht
    rw [Lint.termAdvice, hvar] at hnone
    dsimp only at hnone
    split_ifs at hnone with hx
    exact (Lint.mem_assigned_reach hp).mp hx
  rcases hreads with hreads | hreads
  · exact hexpr s.value hquiet.1 hreads
  · exact hexpr s.cond hquiet.2 hreads

/-- A run that an unbound variable stopped tells which variable that was. -/
theorem Engine.unbound_of_mem_marks {e : Engine} (hv : e.visitor = Visitor.standard) {look : Interrupts}
    {p : Program} {g : Graph} (hg : p.graph = some g) (hp : g.Placed) {m : Message} {r : Result}
    {err : WalkError} (hout : (e.execute look (.start m (some p))).outcome = .finished r (some err))
    (hmark : Mark.unboundVariable ∈ err.marks) : ∃ x, err.eval? = some (.unbound x) := by
  obtain ⟨k, left, cur, d, -, -, -, -, hhalts, -⟩ := execute_halts hv hp.isFull hg hout
  generalize (e.execute look (.start m (some p))).context = c at hhalts
  cases hhalts with
  | @interrupted i =>
    cases i <;> simp [WalkError.marks, Interruption.fault, Fault.canceled, Fault.deadline] at hmark
  | missing | exhausted => simp [WalkError.marks] at hmark
  | crashed => cases hmark
  | @failed n verr hn hbudget hfailed =>
    obtain ⟨everr, heval, hk⟩ := VisitError.eval_of_mem_marks (Visitor.visit_not_foreign hfailed) hmark
      (by decide) (by decide)
    cases everr with
    | unbound x => exact ⟨x, heval⟩
    | missing | arity | empty | unknown => cases hk

/-- The findings about a program that passes its check are exact. The crawl they rest on comes to an end
by itself, and they are in the order of their nodes. A node that the entry does not lead to has the one
finding that it cannot be reached, and no other node has this one. A node that the entry does lead to has
a finding for each reading of a variable by its statement, unless the variable is assigned by such a node.
So where there are no findings, a request that is stopped by an unbound variable is stopped by one that
is assigned somewhere. -/
theorem Program.lint_exact {p : Program} (hcheck : p.check = .ok ()) :
    ∃ g fs, p.graph = some g ∧ p.lint? = some fs ∧
      Lint.Crawls g [g.entry] ⟨[], [], []⟩ (Lint.reach g) ∧
      fs.Pairwise (fun a b => a.node ≤ b.node) ∧
      (∀ f ∈ fs, ∃ n, g.node? f.node = some n) ∧
      (∀ id n, g.node? id = some n → ¬ g.Reaches g.entry id →
        fs.filter (fun f => f.node = id) = [⟨id, .unreachable n.kind⟩]) ∧
      (∀ id n, g.node? id = some n → g.Reaches g.entry id →
        (∀ kind, ⟨id, .unreachable kind⟩ ∉ fs) ∧
        ∃ s, g.statement? n.parent = some s ∧ ∀ x,
          (g.Assigns x → ⟨id, .unassigned x⟩ ∉ fs) ∧
          (¬ g.Assigns x →
            fs.count ⟨id, .unassigned x⟩ = s.value.readings x + s.cond.readings x)) ∧
      (fs = [] → ∀ (e : Engine) (look : Interrupts) (m : Message) (r : Result) (err : WalkError),
        e.visitor = Visitor.standard →
        (e.execute look (.start m (some p))).outcome = .finished r (some err) →
        Mark.unboundVariable ∈ err.marks → ∃ x, err.eval? = some (.unbound x) ∧ g.Assigns x) := by
  obtain ⟨-, g, hg, hgraph⟩ := (Program.check_eq_ok_iff p).mp hcheck
  have hp := Graph.placed_of_check hgraph
  obtain ⟨nodes, hnodes, hlint⟩ := Program.lint?_of_placed hg hp
  refine ⟨g, _, hg, hlint, Lint.crawls_reach hp, ?_, ?_, ?_, ?_, ?_⟩
  · have hsorted := List.pairwise_mergeSort Lint.node_le_trans Lint.node_le_total
    exact (hsorted _).imp fun hab => of_decide_eq_true hab
  · intro f hf
    exact Lint.node?_of_mem_findings hp hnodes hf
  · intro id n hn hreach
    exact (Lint.filter_findings_of_node? hp hnodes hn).2 hreach
  · intro id n hn hreach
    have hfilter : (Lint.findings g nodes p.schema).filter (fun f => f.node = id) =
        Lint.nodeAdvice g p.schema (Lint.reach g).assigned n :=
      (Lint.filter_findings_of_node? hp hnodes hn).1 hreach
    obtain ⟨k, hid, hplaced⟩ := hp.nodePlaced hn
    have hnode : n.id = id := hplaced.id.trans hid.symm
    -- A finding about this node is one of those that its statement gives.
    have hadvice : ∀ a, (⟨id, a⟩ : Finding) ∈ Lint.findings g nodes p.schema →
        ⟨id, a⟩ ∈ Lint.nodeAdvice g p.schema (Lint.reach g).assigned n := by
      intro a ha
      rw [← hfilter]
      exact List.mem_filter.mpr ⟨ha, decide_eq_true rfl⟩
    obtain ⟨s, hs⟩ := Option.isSome_iff_exists.mp
      ((at?_isSome_iff g.statements n.parent).mpr hplaced.parent)
    refine ⟨?_, s, hs, ?_⟩
    · intro kind hmem
      exact Lint.advice_of_mem_nodeAdvice (hadvice _ hmem) kind rfl
    · intro x
      refine ⟨?_, ?_⟩
      · intro hx hmem
        have hnot := Lint.unassigned_mem_nodeAdvice (hadvice _ hmem)
        exact hnot ((Lint.mem_assigned_reach hp).mpr hx)
      · intro hx
        have hnot : x ∉ (Lint.reach g).assigned := mt (Lint.mem_assigned_reach hp).mp hx
        have hown : ((Lint.findings g nodes p.schema).filter fun f => f.node = id).count
            ⟨id, .unassigned x⟩ = (Lint.findings g nodes p.schema).count ⟨id, .unassigned x⟩ := by
          apply List.count_filter
          exact decide_eq_true rfl
        rw [← hown, hfilter, ← hnode]
        exact Lint.count_nodeAdvice hs hnot
  · intro hnone e look m r err hv hout hmark
    rw [hnone] at hlint
    obtain ⟨x, heval⟩ := Engine.unbound_of_mem_marks hv hg hp hout hmark
    obtain ⟨cur, n, s, hreach, hn, hs, hholds⟩ :=
      Engine.of_execute_looks hv hg hp hout heval rfl
    exact ⟨x, heval, Graph.assigns_of_quiet hg hp hlint hn hreach hs hholds⟩

/-- Two branches that meet, and behind them two nodes that lead only to each other. The condition reads
`a` twice, which nothing assigns; `b` is assigned on one of the two ways to the node that reads it. -/
theorem Program.lint_exact_join :
    let g : Graph := ⟨[some (.branch 0 0 1 2), some (.assign 1 1 2), some (.reply 2 2 (-1)),
      some (.reply 3 2 4), some (.reply 4 2 3)],
      [⟨0, .cond, "", .empty, .eq (.var "a") (.not (.var "a")), ⟨"", 0⟩⟩,
      ⟨1, .assign, "b", .lit .null, .empty, ⟨"", 1⟩⟩, ⟨2, .reply, "", .var "b", .empty, ⟨"", 2⟩⟩], 0⟩
    let p : Program := ⟨"join", "1", some g, none⟩
    p.check = .ok () ∧ ∃ fs, p.lint? = some fs ∧ fs.Pairwise (fun a b => a.node ≤ b.node) ∧
      fs.filter (fun f => f.node = 4) = [⟨4, .unreachable .reply⟩] ∧
      fs.count ⟨0, .unassigned "a"⟩ = 2 ∧ ⟨2, .unassigned "b"⟩ ∉ fs := by
  intro g p
  have hcheck : p.check = .ok () := by decide
  have hp : g.Placed := (Graph.placed_iff g).mpr (by decide)
  have hvisited (x : Int) : x ∈ (Lint.reach g).visited ↔ g.Reaches g.entry x :=
    (Lint.reach_sound hp).mem_visited
  have hreach : g.Reaches g.entry 2 := (hvisited 2).mp (by decide)
  have hapart : ¬ g.Reaches g.entry 4 := (hvisited 4).not.mp (by decide)
  have ha : ¬ g.Assigns "a" := (Lint.mem_assigned_reach hp).not.mp (by decide)
  have hb : g.Assigns "b" := (Lint.mem_assigned_reach hp).mp (by decide)
  obtain ⟨g', fs, hg, hlint, -, hsorted, -, hunreached, hreached, -⟩ := lint_exact hcheck
  cases hg
  refine ⟨hcheck, fs, hlint, hsorted, hunreached 4 _ rfl hapart, ?_, ?_⟩
  · obtain ⟨-, s, hs, hreadings⟩ := hreached 0 _ rfl .refl
    cases hs
    exact (hreadings "a").2 ha
  · obtain ⟨-, s, hs, hreadings⟩ := hreached 2 _ rfl hreach
    exact (hreadings "b").1 hb

end Courier
