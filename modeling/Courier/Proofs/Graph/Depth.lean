import Courier.Graph.Depth
import Courier.Proofs.Graph.Cycle

/-! Trails through a graph, and the depth as the length of the longest one.
A trail is any sequence of nodes a walk could take. Where every walk ends, no trail comes to a
node twice, so its length is bounded and the depths that are kept are those a search without them
finds. -/
namespace Courier.Graph

/-- A trail from `a` over the nodes `is`, each a successor of the one before, that goes on to
`b`. -/
inductive Trail (g : Graph) : Int → List Int → Int → Prop
  | nil {a} : Trail g a [] a
  | cons {a b c is} {n : Node} (hn : g.node? a = some n) (hb : b ∈ n.targets)
      (h : Trail g b is c) : Trail g a (a :: is) c

theorem node?_noNode (g : Graph) : g.node? noNode = none := by
  cases h : g.node? noNode with
  | none => rfl
  | some n => exact absurd (within_of_node? h) (not_within_noNode g.nodes)

theorem ne_noNode_of_node? {g : Graph} {x : Int} {n : Node} (h : g.node? x = some n) : x ≠ noNode := by
  rintro rfl
  rw [node?_noNode] at h
  cases h

namespace Trail

variable {g : Graph} {a b c : Int} {is js : List Int}

theorem append (h : Trail g a is b) (h' : Trail g b js c) : Trail g a (is ++ js) c := by
  induction h with
  | nil => exact h'
  | cons hn hb _ ih => exact .cons hn hb (ih h')

/-- Nothing is left of a trail at the absent successor. -/
theorem eq_nil_of_noNode (h : Trail g noNode is b) : is = [] ∧ b = noNode := by
  cases h with
  | nil => exact ⟨rfl, rfl⟩
  | cons hn =>
    rw [node?_noNode] at hn
    cases hn

/-- A trail that has not come to its end starts at a node. -/
theorem ne_noNode (h : Trail g a is b) (hend : is ≠ [] ∨ b ≠ noNode) : a ≠ noNode := by
  rintro rfl
  obtain ⟨hnil, hb⟩ := h.eq_nil_of_noNode
  rcases hend with hne | hne
  · exact hne hnil
  · exact hne hb

theorem reaches_of_mem (h : Trail g a is b) {i : Int} (hi : i ∈ is) : g.Reaches a i := by
  induction h with
  | nil => cases hi
  | @cons a m b is n hn hm h ih =>
    rcases List.mem_cons.mp hi with rfl | hi
    · exact .refl
    · have hne : m ≠ noNode := h.ne_noNode (.inl (List.ne_nil_of_mem hi))
      exact (ih hi).head ⟨n, hn, hm, hne⟩

theorem reaches (h : Trail g a is b) (hb : b ≠ noNode) : g.Reaches a b := by
  induction h with
  | nil => exact .refl
  | @cons a m b is n hn hm h ih =>
    have hne : m ≠ noNode := h.ne_noNode (.inr hb)
    exact (ih hb).head ⟨n, hn, hm, hne⟩

theorem within_of_mem (h : Trail g a is b) {i : Int} (hi : i ∈ is) : Within g.nodes i := by
  induction h with
  | nil => cases hi
  | cons hn _ _ ih =>
    rcases List.mem_cons.mp hi with rfl | hi
    · exact within_of_node? hn
    · exact ih hi

/-- A trail through a placed graph goes on to a node unless it has come to its end. -/
theorem next_placed (h : Trail g a is b) (hp : g.Placed) (ha : a = noNode ∨ Within g.nodes a) :
    b = noNode ∨ Within g.nodes b := by
  induction h with
  | nil => exact ha
  | @cons a m b is n hn hm h ih =>
    obtain ⟨k, -, hplaced⟩ := hp.nodePlaced hn
    exact ih (hplaced.targets m hm)

/-- Where every walk ends, a trail comes to no node twice. -/
theorem nodup (h : Trail g a is b) (he : g.Ends a) : is.Nodup := by
  induction h with
  | nil => exact List.nodup_nil
  | @cons a m b is n hn hm h ih =>
    by_cases hnil : is = []
    · subst hnil
      simp
    have hedge : g.Edge a m := ⟨n, hn, hm, h.ne_noNode (.inl hnil)⟩
    refine List.nodup_cons.mpr ⟨fun hmem => ?_, ih (he.inv hedge)⟩
    -- Coming back to `a` would close a cycle.
    exact he.not_onCycle (.head' hedge (h.reaches_of_mem hmem))

theorem length_le (h : Trail g a is b) (he : g.Ends a) : is.length ≤ g.nodes.length :=
  length_le_of_nodup_within (h.nodup he) fun _ => h.within_of_mem

end Trail

theorem ends_noNode (g : Graph) : g.Ends noNode := by
  refine .intro noNode fun b hb => ?_
  obtain ⟨n, hn, -⟩ := hb
  rw [node?_noNode] at hn
  cases hn

theorem targets_ne_nil (n : Node) : n.targets ≠ [] := by
  cases n <;> simp [Node.targets]

/-- In a placed graph a trail can be followed to its end from wherever every walk ends. -/
theorem Ends.exists_trail {g : Graph} (hp : g.Placed) {a : Int} (he : g.Ends a)
    (ha : a = noNode ∨ Within g.nodes a) : ∃ is, Trail g a is noNode := by
  induction he with
  | intro a _ ih =>
    rcases ha with rfl | ha
    · exact ⟨[], .nil⟩
    obtain ⟨n, hn⟩ := hp.node?_of_within ha
    obtain ⟨k, -, hplaced⟩ := hp.nodePlaced hn
    obtain ⟨b, hb⟩ := List.exists_mem_of_ne_nil n.targets (targets_ne_nil n)
    by_cases hne : b = noNode
    · subst hne
      exact ⟨[a], .cons hn hb .nil⟩
    · obtain ⟨is, his⟩ := ih b ⟨n, hn, hb, hne⟩ (hplaced.targets b hb)
      exact ⟨a :: is, .cons hn hb his⟩

/-- The longest trail from `a` to its end has `d` nodes. -/
structure Longest (g : Graph) (a : Int) (d : Nat) : Prop where
  attained : ∃ is, Trail g a is noNode ∧ is.length = d
  bound : ∀ is, Trail g a is noNode → is.length ≤ d

theorem longest_noNode (g : Graph) : g.Longest noNode 0 where
  attained := ⟨[], .nil, rfl⟩
  bound := by
    intro is h
    rw [h.eq_nil_of_noNode.1]
    exact Nat.le_refl 0

/-- The depths that are kept are right. -/
def Depths.Sound (g : Graph) (memo : Depths) : Prop :=
  ∀ id d, memo.get? id = some d → g.Longest id d

theorem Depths.Sound.nil (g : Graph) : Depths.Sound g [] := by
  intro id d h
  cases h

theorem Depths.Sound.cons {g : Graph} {memo : Depths} (h : memo.Sound g) {id : Int} {d : Nat}
    (hd : g.Longest id d) : Depths.Sound g ((id, d) :: memo) := by
  intro id' d' hget
  rw [Depths.get?, List.find?_cons] at hget
  by_cases hid : id = id'
  · subst hid
    simp only [decide_true, Option.map_some, Option.some.injEq] at hget
    exact hget ▸ hd
  · simp only [hid, decide_false] at hget
    exact h id' d' hget

/-- What `deepest` finds is `best` or the depth from some node, and no depth is larger. -/
structure Deepest (g : Graph) (best : Nat) (ts : List Int) (m : Nat) : Prop where
  attained : m = best ∨ ∃ t ∈ ts, g.Longest t m
  above : best ≤ m
  bound : ∀ t ∈ ts, ∃ d, g.Longest t d ∧ d ≤ m

namespace Deepest

variable {g : Graph} {best d m : Nat} {t : Int} {ts : List Int}

/-- The larger of `best` and the depth from the first node is what the rest is compared with. -/
theorem cons (hd : g.Longest t d) (h : Deepest g (max best d) ts m) :
    Deepest g best (t :: ts) m where
  attained := by
    rcases h.attained with hm | ⟨u, hu, hlong⟩
    · rcases Nat.le_total d best with hle | hle
      · exact .inl (hm.trans (Nat.max_eq_left hle))
      · rw [hm, Nat.max_eq_right hle]
        exact .inr ⟨t, List.mem_cons_self, hd⟩
    · exact .inr ⟨u, List.mem_cons_of_mem t hu, hlong⟩
  above := Nat.le_trans (Nat.le_max_left best d) h.above
  bound := by
    intro u hu
    rcases List.mem_cons.mp hu with rfl | hu
    · exact ⟨d, hd, Nat.le_trans (Nat.le_max_right best d) h.above⟩
    · exact h.bound u hu

theorem longest (h : Deepest g 0 [t] m) : g.Longest t m := by
  rcases h.attained with rfl | ⟨u, hu, hlong⟩
  · obtain ⟨d, hd, hle⟩ := h.bound t List.mem_cons_self
    exact Nat.le_zero.mp hle ▸ hd
  · exact List.mem_singleton.mp hu ▸ hlong

end Deepest

/-- A node is one deeper than the deepest of its successors. -/
theorem longest_succ {g : Graph} {a : Int} {n : Node} (hn : g.node? a = some n) {m : Nat}
    (h : Deepest g 0 n.targets m) : g.Longest a (m + 1) where
  attained := by
    have hlong : ∃ t ∈ n.targets, g.Longest t m := by
      rcases h.attained with rfl | hlong
      -- Nothing is deeper than 0, so any successor will do.
      · obtain ⟨t, ht⟩ := List.exists_mem_of_ne_nil n.targets (targets_ne_nil n)
        obtain ⟨d, hd, hle⟩ := h.bound t ht
        exact ⟨t, ht, Nat.le_zero.mp hle ▸ hd⟩
      · exact hlong
    obtain ⟨t, ht, hlong⟩ := hlong
    obtain ⟨is, his, hlen⟩ := hlong.attained
    exact ⟨a :: is, .cons hn ht his, by rw [List.length_cons, hlen]⟩
  bound := by
    intro is his
    cases his with
    | nil =>
      rw [node?_noNode] at hn
      cases hn
    | @cons _ b _ js n' hn' hb hjs =>
      rw [hn] at hn'
      cases hn'
      obtain ⟨d, hd, hle⟩ := h.bound b hb
      have hlen := hd.bound js hjs
      rw [List.length_cons]
      omega

/-- The depths from the nodes of a list in turn, as a recursion that keeps what it finds and has no
bound: the largest of them and of `best`, and what is kept afterwards. It goes on from a node only if
that node is there. -/
inductive Measures (g : Graph) : Depths → Nat → List Int → Nat → Depths → Prop
  | nil {memo best} : Measures g memo best [] best memo
  | absent {memo memo' best ts m} (hrest : Measures g memo best ts m memo') :
      Measures g memo best (noNode :: ts) m memo'
  | kept {memo memo' best t ts d m} (ht : t ≠ noNode) (hd : memo.get? t = some d)
      (hrest : Measures g memo (max best d) ts m memo') : Measures g memo best (t :: ts) m memo'
  | found {memo below memo' best t ts d m} {n : Node} (hnew : memo.get? t = none)
      (hn : g.node? t = some n) (hbelow : Measures g memo 0 n.targets d below)
      (hrest : Measures g ((t, d + 1) :: below) (max best (d + 1)) ts m memo') :
      Measures g memo best (t :: ts) m memo'

theorem Measures.cons {g : Graph} {memo below memo' : Depths} {best d m : Nat} {t : Int}
    {ts : List Int} (h : Measures g memo 0 [t] d below)
    (hrest : Measures g below (max best d) ts m memo') : Measures g memo best (t :: ts) m memo' := by
  cases h with
  | absent hnil =>
    cases hnil
    rw [Nat.max_zero] at hrest
    exact .absent hrest
  | kept ht hd hnil =>
    cases hnil
    rw [Nat.zero_max] at hrest
    exact .kept ht hd hrest
  | found hnew hn hbelow hnil =>
    cases hnil
    rw [Nat.zero_max] at hrest
    exact .found hnew hn hbelow hrest

theorem measures_deepest {g : Graph} {measure : Depths → Int → Nat × Depths} (ts : List Int)
    (h : ∀ t ∈ ts, ∀ memo, Measures g memo 0 [t] (measure memo t).1 (measure memo t).2)
    (memo : Depths) (best : Nat) :
    Measures g memo best ts (deepest measure memo best ts).1 (deepest measure memo best ts).2 := by
  induction ts generalizing memo best with
  | nil => exact .nil
  | cons t ts ih =>
    have ht := h t List.mem_cons_self memo
    have hrest := ih (fun u hu => h u (List.mem_cons_of_mem t hu)) (measure memo t).2
      (max best (measure memo t).1)
    have hmax : (if best < (measure memo t).1 then (measure memo t).1 else best) =
        max best (measure memo t).1 := by
      split_ifs <;> omega
    rw [deepest, hmax]
    exact ht.cons hrest

/-- The bound never cuts the recursion short if it is as large as the longest trail. -/
theorem measures_depthFrom {g : Graph} (hp : g.Placed) (fuel : Nat) (memo : Depths) (id : Int)
    (he : g.Ends id) (hid : id = noNode ∨ Within g.nodes id)
    (hfuel : ∀ is, Trail g id is noNode → is.length ≤ fuel) :
    Measures g memo 0 [id] (depthFrom g fuel memo id).1 (depthFrom g fuel memo id).2 := by
  induction fuel generalizing memo id with
  | zero =>
    -- Every trail from here is empty, but one from a node would not be.
    have hend : id = noNode := by
      by_contra hne
      obtain ⟨is, his⟩ := he.exists_trail hp hid
      cases his with
      | nil => exact hne rfl
      | cons hn hb h => exact absurd (hfuel _ (.cons hn hb h)) (by simp)
    subst hend
    exact .absent .nil
  | succ fuel ih =>
    rw [depthFrom]
    by_cases hend : id = noNode
    · subst hend
      simpa only [↓reduceIte] using .absent .nil
    simp only [hend, ↓reduceIte]
    cases hget : memo.get? id with
    | some d => exact .kept hend hget (by rw [Nat.zero_max]; exact .nil)
    | none =>
      obtain ⟨n, hn⟩ := hp.node?_of_within (hid.resolve_left hend)
      obtain ⟨k, -, hplaced⟩ := hp.nodePlaced hn
      simp only [hn]
      have hmeasure : ∀ t ∈ n.targets, ∀ memo : Depths,
          Measures g memo 0 [t] (depthFrom g fuel memo t).1 (depthFrom g fuel memo t).2 := by
        intro t ht memo
        have hshort : ∀ is, Trail g t is noNode → is.length ≤ fuel := by
          intro is his
          have hlen := hfuel (id :: is) (.cons hn ht his)
          rw [List.length_cons] at hlen
          omega
        by_cases hne : t = noNode
        · subst hne
          exact ih memo noNode (ends_noNode g) (.inl rfl) hshort
        · exact ih memo t (he.inv ⟨n, hn, ht, hne⟩) (hplaced.targets t ht) hshort
      exact .found hget hn (measures_deepest n.targets hmeasure memo 0)
        (by rw [Nat.zero_max]; exact .nil)

/-- What is measured with right depths is right, and so are the depths that are kept then. -/
theorem Measures.deepest {g : Graph} {memo memo' : Depths} {best m : Nat} {ts : List Int}
    (h : Measures g memo best ts m memo') (hmemo : memo.Sound g) :
    Deepest g best ts m ∧ memo'.Sound g := by
  induction h with
  | nil => exact ⟨⟨.inl rfl, Nat.le_refl _, by simp⟩, hmemo⟩
  | absent _ ih =>
    obtain ⟨hdeep, hsound⟩ := ih hmemo
    exact ⟨.cons g.longest_noNode (by rwa [Nat.max_zero]), hsound⟩
  | @kept _ _ _ t _ d _ _ hd _ ih =>
    obtain ⟨hdeep, hsound⟩ := ih hmemo
    exact ⟨.cons (hmemo t d hd) hdeep, hsound⟩
  | found _ hn _ _ ihbelow ihrest =>
    obtain ⟨hbelow, hsound⟩ := ihbelow hmemo
    have hlong := longest_succ hn hbelow
    obtain ⟨hdeep, hsound'⟩ := ihrest (hsound.cons hlong)
    exact ⟨.cons hlong hdeep, hsound'⟩

/-- The depth of a graph is what the recursion without a bound gives. -/
theorem measures_depth {g : Graph} (hp : g.Placed) (he : g.Ends g.entry) :
    ∃ memo, Measures g [] 0 [g.entry] g.depth memo := by
  have hfuel : ∀ is, Trail g g.entry is noNode → is.length ≤ g.nodes.length + 1 := by
    intro is his
    have hlen := his.length_le he
    omega
  exact ⟨_, measures_depthFrom hp _ [] g.entry he (.inr hp.entry) hfuel⟩

/-- The depth of a graph is the length of the longest trail from its entry. -/
theorem longest_depth {g : Graph} (hp : g.Placed) (he : g.Ends g.entry) :
    g.Longest g.entry g.depth := by
  obtain ⟨memo, h⟩ := measures_depth hp he
  exact (h.deepest (.nil g)).1.longest

theorem depth_le_length {g : Graph} (hp : g.Placed) (he : g.Ends g.entry) :
    g.depth ≤ g.nodes.length := by
  obtain ⟨is, his, hlen⟩ := (longest_depth hp he).attained
  rw [← hlen]
  exact his.length_le he

/-- No trail from the entry is longer than the depth, and one that goes on is shorter. -/
theorem Trail.length_le_depth {g : Graph} (hp : g.Placed) (he : g.Ends g.entry) {is : List Int}
    {b : Int} (h : Trail g g.entry is b) :
    is.length ≤ g.depth ∧ (b ≠ noNode → is.length < g.depth) := by
  have hb : b = noNode ∨ Within g.nodes b := h.next_placed hp (.inr hp.entry)
  have hends : g.Ends b := by
    by_cases hne : b = noNode
    · exact hne ▸ g.ends_noNode
    · exact he.of_reaches (h.reaches hne)
  -- The trail can be followed to its end from where it has come to.
  obtain ⟨js, hjs⟩ := hends.exists_trail hp hb
  have hlen := (longest_depth hp he).bound (is ++ js) (h.append hjs)
  rw [List.length_append] at hlen
  refine ⟨by omega, fun hne => ?_⟩
  cases hjs with
  | nil => exact absurd rfl hne
  | cons =>
    rw [List.length_cons] at hlen
    omega

/-! ### Looked-up depths
Nodes that several branches lead to are measured once and looked up after that. What is looked up is
what measuring the node again would give, and afterwards there is a depth for every node that the entry
leads to. -/

/-- The depths from the nodes of a list in turn, each found anew whenever it is needed: the largest of
them and of `best`. -/
inductive Recomputes (g : Graph) : Nat → List Int → Nat → Prop
  | nil {best} : Recomputes g best [] best
  | absent {best ts m} (hrest : Recomputes g best ts m) : Recomputes g best (noNode :: ts) m
  | node {best t ts d m} {n : Node} (hn : g.node? t = some n) (hbelow : Recomputes g 0 n.targets d)
      (hrest : Recomputes g (max best (d + 1)) ts m) : Recomputes g best (t :: ts) m

namespace Recomputes

variable {g : Graph} {best d m m' : Nat} {t : Int} {ts : List Int}

theorem cons (h : Recomputes g 0 [t] d) (hrest : Recomputes g (max best d) ts m) :
    Recomputes g best (t :: ts) m := by
  cases h with
  | absent hnil =>
    cases hnil
    rw [Nat.max_zero] at hrest
    exact .absent hrest
  | node hn hbelow hnil =>
    cases hnil
    rw [Nat.zero_max] at hrest
    exact .node hn hbelow hrest

theorem singleton {n : Node} (hn : g.node? t = some n) (hbelow : Recomputes g 0 n.targets d) :
    Recomputes g 0 [t] (d + 1) :=
  .node hn hbelow (by rw [Nat.zero_max]; exact .nil)

/-- The recursion has one answer. -/
theorem unique (h : Recomputes g best ts m) (h' : Recomputes g best ts m') : m = m' := by
  induction h generalizing m' with
  | nil =>
    cases h'
    rfl
  | absent _ ih =>
    cases h' with
    | absent hrest => exact ih hrest
    | node hn => simp [node?_noNode] at hn
  | node hn _ _ ihbelow ihrest =>
    cases h' with
    | absent => simp [node?_noNode] at hn
    | node hn' hbelow hrest =>
      rw [hn] at hn'
      cases hn'
      obtain rfl := ihbelow hbelow
      exact ihrest hrest

end Recomputes

namespace Depths

/-- Every depth that is kept is the one that would be found anew. -/
def Fresh (g : Graph) (memo : Depths) : Prop :=
  ∀ id d, memo.get? id = some d → Recomputes g 0 [id] d

/-- With a node, all that it goes on to are kept. -/
def Closed (g : Graph) (memo : Depths) : Prop :=
  ∀ a b, g.Edge a b → memo.get? a ≠ none → memo.get? b ≠ none

variable {g : Graph} {memo : Depths} {id : Int}

theorem get?_cons_self (memo : Depths) (id : Int) (d : Nat) : get? ((id, d) :: memo) id = some d := by
  simp [get?]

theorem get?_cons_of_ne {t : Int} (h : t ≠ id) (d : Nat) :
    get? ((t, d) :: memo) id = memo.get? id := by
  simp [get?, h]

theorem get?_cons_ne_none (t : Int) (d : Nat) :
    get? ((t, d) :: memo) id ≠ none ↔ t = id ∨ memo.get? id ≠ none := by
  by_cases ht : t = id
  · subst ht
    simp [get?_cons_self]
  · simp [get?_cons_of_ne ht, ht]

theorem Fresh.nil (g : Graph) : Fresh g [] := nofun

theorem Closed.nil (g : Graph) : Closed g [] := fun _ _ _ ha => absurd rfl ha

theorem Fresh.cons (h : memo.Fresh g) {d : Nat} (hd : Recomputes g 0 [id] d) :
    Fresh g ((id, d) :: memo) := by
  intro id' d' hget
  by_cases hid : id = id'
  · subst hid
    rw [get?_cons_self, Option.some.injEq] at hget
    exact hget ▸ hd
  · rw [get?_cons_of_ne hid] at hget
    exact h id' d' hget

theorem Closed.of_reaches (h : memo.Closed g) {a b : Int} (ha : memo.get? a ≠ none)
    (hr : g.Reaches a b) : memo.get? b ≠ none := by
  induction hr with
  | refl => exact ha
  | tail _ hedge ih => exact h _ _ hedge ih

end Depths

namespace Measures

variable {g : Graph} {memo memo' : Depths} {best m : Nat} {ts : List Int}

/-- Looking depths up gives what finding them anew gives, and leaves depths of which this holds again. -/
theorem recomputes (h : Measures g memo best ts m memo') (hmemo : memo.Fresh g) :
    Recomputes g best ts m ∧ memo'.Fresh g := by
  induction h with
  | nil => exact ⟨.nil, hmemo⟩
  | absent _ ih =>
    obtain ⟨hrest, hfresh⟩ := ih hmemo
    exact ⟨.absent hrest, hfresh⟩
  | @kept _ _ _ t _ d _ _ hd _ ih =>
    obtain ⟨hrest, hfresh⟩ := ih hmemo
    exact ⟨.cons (hmemo t d hd) hrest, hfresh⟩
  | found _ hn _ _ ihbelow ihrest =>
    obtain ⟨hbelow, hfresh⟩ := ihbelow hmemo
    obtain ⟨hrest, hfresh'⟩ := ihrest (hfresh.cons (.singleton hn hbelow))
    exact ⟨.node hn hbelow hrest, hfresh'⟩

/-- Nothing that is kept is dropped. -/
theorem keeps (h : Measures g memo best ts m memo') {id : Int} (hid : memo.get? id ≠ none) :
    memo'.get? id ≠ none := by
  induction h with
  | nil => exact hid
  | absent _ ih => exact ih hid
  | kept _ _ _ ih => exact ih hid
  | found _ _ _ _ ihbelow ihrest =>
    exact ihrest ((Depths.get?_cons_ne_none _ _).mpr (.inr (ihbelow hid)))

/-- Afterwards all nodes of the list are kept, and all that they lead to. -/
theorem closed (h : Measures g memo best ts m memo') (hmemo : memo.Closed g) :
    memo'.Closed g ∧ ∀ t ∈ ts, t ≠ noNode → memo'.get? t ≠ none := by
  induction h with
  | nil => exact ⟨hmemo, nofun⟩
  | absent _ ih =>
    obtain ⟨hclosed, hts⟩ := ih hmemo
    exact ⟨hclosed, List.forall_mem_cons.mpr ⟨fun h => absurd rfl h, hts⟩⟩
  | kept _ hd hrest ih =>
    obtain ⟨hclosed, hts⟩ := ih hmemo
    have hkept := hrest.keeps (Option.ne_none_iff_exists'.mpr ⟨_, hd⟩)
    exact ⟨hclosed, List.forall_mem_cons.mpr ⟨fun _ => hkept, hts⟩⟩
  | @found _ below _ _ t _ d _ n _ hn _ hrest ihbelow ihrest =>
    obtain ⟨hclosed, htargets⟩ := ihbelow hmemo
    -- The one node that is new goes on to nodes that were measured before it is kept.
    have hclosed' : Depths.Closed g ((t, d + 1) :: below) := by
      intro a b hedge ha
      refine (Depths.get?_cons_ne_none t _).mpr (.inr ?_)
      rcases (Depths.get?_cons_ne_none t _).mp ha with rfl | ha
      · obtain ⟨n', hn', hb, hne⟩ := hedge
        rw [hn] at hn'
        cases hn'
        exact htargets b hb hne
      · exact hclosed a b hedge ha
    obtain ⟨hclosed'', hts⟩ := ihrest hclosed'
    have hkept := hrest.keeps ((Depths.get?_cons_ne_none t (d + 1)).mpr (.inl rfl))
    exact ⟨hclosed'', List.forall_mem_cons.mpr ⟨fun _ => hkept, hts⟩⟩

/-- No node is kept that is not led to. -/
theorem reached (h : Measures g memo best ts m memo') {id : Int} (hid : memo'.get? id ≠ none) :
    memo.get? id ≠ none ∨ ∃ t ∈ ts, t ≠ noNode ∧ g.Reaches t id := by
  induction h with
  | nil => exact .inl hid
  | absent _ ih =>
    rcases ih hid with hid | ⟨u, hu, hreach⟩
    · exact .inl hid
    · exact .inr ⟨u, List.mem_cons_of_mem _ hu, hreach⟩
  | kept _ _ _ ih =>
    rcases ih hid with hid | ⟨u, hu, hreach⟩
    · exact .inl hid
    · exact .inr ⟨u, List.mem_cons_of_mem _ hu, hreach⟩
  | @found _ _ _ _ t _ _ _ n _ hn _ _ ihbelow ihrest =>
    have ht : t ≠ noNode := ne_noNode_of_node? hn
    rcases ihrest hid with hid | ⟨u, hu, hreach⟩
    · rcases (Depths.get?_cons_ne_none t _).mp hid with rfl | hid
      · exact .inr ⟨t, List.mem_cons_self, ht, .refl⟩
      rcases ihbelow hid with hid | ⟨u, hu, hne, hreach⟩
      · exact .inl hid
      · exact .inr ⟨t, List.mem_cons_self, ht, hreach.head ⟨n, hn, hu, hne⟩⟩
    · exact .inr ⟨u, List.mem_cons_of_mem t hu, hreach⟩

end Measures

/-- The depth of a graph that passes its check is the length of the longest trail from its entry to an
end. The recursion that keeps depths comes to an end without a bound and has no other answer, and the one
that keeps nothing has the same. Afterwards just the nodes that the entry leads to have a depth, which is
the one that would be found anew. -/
theorem depth_longest {g : Graph} (h : g.check = .ok ()) :
    g.Longest g.entry g.depth ∧
    (∃ memo, Measures g [] 0 [g.entry] g.depth memo ∧
      ∀ id d, memo.get? id = some d ↔ g.Reaches g.entry id ∧ Recomputes g 0 [id] d) ∧
    (∀ d memo, Measures g [] 0 [g.entry] d memo → d = g.depth) ∧
    ∀ d, Recomputes g 0 [g.entry] d ↔ d = g.depth := by
  have hp := placed_of_check h
  have he := ends_of_check h
  obtain ⟨memo, hmeasures⟩ := measures_depth hp he
  obtain ⟨hdepth, hfresh⟩ := hmeasures.recomputes (.nil g)
  have hentry : g.entry ≠ noNode := by
    obtain ⟨n, hn⟩ := hp.node?_of_within hp.entry
    exact ne_noNode_of_node? hn
  obtain ⟨hclosed, hkept⟩ := hmeasures.closed (.nil g)
  refine ⟨longest_depth hp he, ⟨memo, hmeasures, fun id d => ⟨fun hget => ?_, ?_⟩⟩, ?_, fun d => ⟨?_, ?_⟩⟩
  · -- Only the entry was asked for, and nothing was kept before.
    rcases hmeasures.reached (Option.ne_none_iff_exists'.mpr ⟨d, hget⟩) with hnew | ⟨t, ht, -, hreach⟩
    · exact absurd rfl hnew
    · exact ⟨List.mem_singleton.mp ht ▸ hreach, hfresh id d hget⟩
  · rintro ⟨hreach, hd⟩
    have hid := hclosed.of_reaches (hkept g.entry List.mem_cons_self hentry) hreach
    obtain ⟨d', hd'⟩ := Option.ne_none_iff_exists'.mp hid
    rw [hd', hd.unique (hfresh id d' hd')]
  · intro d memo' hmeasures'
    exact (hmeasures'.recomputes (.nil g)).1.unique hdepth
  · exact fun hd => hd.unique hdepth
  · rintro rfl
    exact hdepth

/-- A graph whose branches come together again, and whose third branch may end the walk. -/
theorem depth_longest_join :
    let g : Graph := ⟨[some (.branch 0 0 1 2), some (.assign 1 0 3), some (.assign 2 0 3),
      some (.branch 3 0 4 (-1)), some (.reply 4 0 (-1))],
      [⟨0, .assign, "a", .empty, .empty, ⟨"", 0⟩⟩], 0⟩
    g.check = .ok () ∧ g.depth = 4 ∧ g.Longest g.entry 4 ∧ Recomputes g 0 [g.entry] 4 := by
  intro g
  have h : g.check = .ok () := by decide
  have hdepth : g.depth = 4 := by decide
  obtain ⟨hlong, -, -, hrecomputes⟩ := depth_longest h
  rw [hdepth] at hlong
  exact ⟨h, hdepth, hlong, (hrecomputes 4).mpr hdepth.symm⟩

end Courier.Graph
