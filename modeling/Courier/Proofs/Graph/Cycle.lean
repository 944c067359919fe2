import Courier.Proofs.Graph.Placement

/-! The search for cycles.
`Explores` is the depth-first search as a recursion without a bound, which is stuck wherever a node
is missing. On a placed graph the bounded search follows it to an end, and its answer is right:
a node it names lies on a cycle, and a node it finishes leads to none. -/
namespace Courier.Graph

/-- One step along the successors of a node. -/
def Edge (g : Graph) (a b : Int) : Prop := ∃ n, g.node? a = some n ∧ b ∈ n.targets ∧ b ≠ noNode

def Reaches (g : Graph) (a b : Int) : Prop := Relation.ReflTransGen g.Edge a b

def OnCycle (g : Graph) (a : Int) : Prop := Relation.TransGen g.Edge a a

/-- No cycle can be reached from the entry. -/
def Acyclic (g : Graph) : Prop := ¬ ∃ c, g.Reaches g.entry c ∧ g.OnCycle c

theorem mem_nextOf {g : Graph} {a b : Int} : b ∈ g.nextOf a ↔ g.Edge a b := by
  unfold nextOf Edge
  cases h : g.node? a <;> simp

/-- The searches from a list of nodes in turn, below the `active` ones and without a bound on their
depth, until one of them ends at a cycle. They go on from a node only if that node is there. -/
inductive Explores (g : Graph) : List Int → List Int → List Int → Except Int (List Int) → Prop
  | nil {active done} : Explores g active done [] (.ok done)
  | closes {active done t ts} (hin : Within g.nodes t) (ha : t ∈ active) :
      Explores g active done (t :: ts) (.error t)
  | known {active done t ts r} (hin : Within g.nodes t) (ha : t ∉ active) (hd : t ∈ done)
      (hrest : Explores g active done ts r) : Explores g active done (t :: ts) r
  | stops {active done t ts c} {n : Node} (hn : g.node? t = some n) (ha : t ∉ active)
      (hd : t ∉ done) (hbelow : Explores g (t :: active) done (g.nextOf t) (.error c)) :
      Explores g active done (t :: ts) (.error c)
  | finishes {active done done' t ts r} {n : Node} (hn : g.node? t = some n) (ha : t ∉ active)
      (hd : t ∉ done) (hbelow : Explores g (t :: active) done (g.nextOf t) (.ok done'))
      (hrest : Explores g active (t :: done') ts r) : Explores g active done (t :: ts) r

namespace Explores

variable {g : Graph} {active done : List Int}

theorem error_cons {t c : Int} (ts : List Int) (h : Explores g active done [t] (.error c)) :
    Explores g active done (t :: ts) (.error c) := by
  cases h with
  | closes hin ha => exact .closes hin ha
  | known _ _ _ hrest => cases hrest
  | stops hn ha hd hbelow => exact .stops hn ha hd hbelow
  | finishes _ _ _ _ hrest => cases hrest

theorem ok_cons {t : Int} {ts done' : List Int} {r : Except Int (List Int)}
    (h : Explores g active done [t] (.ok done')) (hts : Explores g active done' ts r) :
    Explores g active done (t :: ts) r := by
  cases h with
  | known hin ha hd hrest =>
    cases hrest
    exact .known hin ha hd hts
  | finishes hn ha hd hbelow hrest =>
    cases hrest
    exact .finishes hn ha hd hbelow hts

end Explores

/-- Distinct positions are at most as many as there are elements. -/
theorem length_le_of_nodup_within {α : Type} {xs : List α} {is : List Int} (hd : is.Nodup)
    (hin : ∀ i ∈ is, Within xs i) : is.length ≤ xs.length := by
  have hsub : is ⊆ (List.range xs.length).map Int.ofNat := by
    intro i hi
    obtain ⟨h0, hlt⟩ := hin i hi
    exact List.mem_map.mpr ⟨i.toNat, List.mem_range.mpr (by omega), Int.toNat_of_nonneg h0⟩
  simpa using (List.subperm_of_subset hd hsub).length_le

theorem explores_searchAll {g : Graph} {active : List Int}
    {searchOne : List Int → Int → Except Int (List Int)} (ts : List Int)
    (h : ∀ t ∈ ts, ∀ done, Explores g active done [t] (searchOne done t)) (done : List Int) :
    Explores g active done ts (searchAll searchOne done ts) := by
  induction ts generalizing done with
  | nil => exact .nil
  | cons t ts ih =>
    have ht := h t (by simp) done
    rw [searchAll]
    cases hs : searchOne done t with
    | error c => exact .error_cons ts (hs ▸ ht)
    | ok done' =>
      exact .ok_cons (hs ▸ ht) (ih (fun u hu => h u (List.mem_cons_of_mem t hu)) done')

/-- The bound never cuts the search short: the active nodes are distinct, so there are fewer of them
than the bound allows when another node is entered. -/
theorem explores_search {g : Graph} (hp : g.Placed) (fuel : Nat) (active done : List Int) (id : Int)
    (hnodup : active.Nodup) (hactive : ∀ a ∈ active, Within g.nodes a) (hid : Within g.nodes id)
    (hfuel : g.nodes.length + 1 ≤ fuel + active.length) :
    Explores g active done [id] (search g fuel active done id) := by
  induction fuel generalizing active done id with
  | zero =>
    -- Out of depth there would be more distinct active nodes than nodes.
    have hlen := length_le_of_nodup_within hnodup hactive
    omega
  | succ fuel ih =>
    rw [search]
    by_cases ha : id ∈ active
    · simpa only [ha, ↓reduceIte] using .closes hid ha
    by_cases hd : id ∈ done
    · simpa only [ha, hd, ↓reduceIte] using .known hid ha hd .nil
    simp only [ha, hd, ↓reduceIte]
    -- A new node: its successors are searched below it, one level deeper with one more active node.
    obtain ⟨n, hn⟩ := hp.node?_of_within hid
    have hall : Explores g (id :: active) done (g.nextOf id)
        (searchAll (search g fuel (id :: active)) done (g.nextOf id)) := by
      refine explores_searchAll _ (fun t ht done' => ?_) done
      have hnodup' : (id :: active).Nodup := List.nodup_cons.mpr ⟨ha, hnodup⟩
      have hactive' : ∀ a ∈ id :: active, Within g.nodes a := by
        intro a hmem
        rcases List.mem_cons.mp hmem with rfl | hmem
        · exact hid
        · exact hactive a hmem
      obtain ⟨m, hm, hmem, hne⟩ := mem_nextOf.mp ht
      obtain ⟨k, -, hplaced⟩ := hp.nodePlaced hm
      have htin := (hplaced.targets t hmem).resolve_left hne
      exact ih (id :: active) done' t hnodup' hactive' htin
        (by simp only [List.length_cons]; omega)
    cases hs : searchAll (search g fuel (id :: active)) done (g.nextOf id) with
    | error c => exact .stops hn ha hd (hs ▸ hall)
    | ok done' => exact .finishes hn ha hd (hs ▸ hall) .nil

/-- A named node lies on a cycle below a node searched from. The active nodes all lead to the nodes
searched from, so meeting one of them again closes a cycle. -/
theorem Explores.onCycle {g : Graph} {active done ts : List Int} {r : Except Int (List Int)}
    (h : Explores g active done ts r)
    (hactive : ∀ a ∈ active, ∀ t ∈ ts, Relation.TransGen g.Edge a t) {c : Int}
    (hr : r = .error c) : (∃ t ∈ ts, g.Reaches t c) ∧ g.OnCycle c := by
  induction h with
  | nil => cases hr
  | @closes _ _ t _ _ ha =>
    cases hr
    -- The node that is met again is active, so it leads to itself.
    exact ⟨⟨c, by simp, .refl⟩, hactive c ha c (by simp)⟩
  | @known _ _ t ts _ _ _ _ _ ih =>
    obtain ⟨⟨u, hu, hreach⟩, hcyc⟩ :=
      ih (fun a ha u hu => hactive a ha u (List.mem_cons_of_mem t hu)) hr
    exact ⟨⟨u, List.mem_cons_of_mem t hu, hreach⟩, hcyc⟩
  | @stops active _ t _ _ _ _ _ _ _ ih =>
    have hbelow : ∀ a ∈ t :: active, ∀ u ∈ g.nextOf t, Relation.TransGen g.Edge a u := by
      intro a hmem u hu
      rcases List.mem_cons.mp hmem with rfl | hmem
      · exact .single (mem_nextOf.mp hu)
      · exact (hactive a hmem t (by simp)).tail (mem_nextOf.mp hu)
    obtain ⟨⟨u, hu, hreach⟩, hcyc⟩ := ih hbelow hr
    exact ⟨⟨t, by simp, hreach.head (mem_nextOf.mp hu)⟩, hcyc⟩
  | @finishes _ _ _ t ts _ _ _ _ _ _ _ _ ih =>
    obtain ⟨⟨u, hu, hreach⟩, hcyc⟩ :=
      ih (fun a ha u hu => hactive a ha u (List.mem_cons_of_mem t hu)) hr
    exact ⟨⟨u, List.mem_cons_of_mem t hu, hreach⟩, hcyc⟩

/-- Every walk from the node comes to an end. -/
def Ends (g : Graph) (a : Int) : Prop := Acc (fun b a => g.Edge a b) a

/-- A finished search leaves its nodes among the done ones, and every walk from a done node ends. -/
theorem Explores.ends_of_ok {g : Graph} {active done ts : List Int} {r : Except Int (List Int)}
    (h : Explores g active done ts r) (hdone : ∀ d ∈ done, g.Ends d) {done' : List Int}
    (hr : r = .ok done') : ts ⊆ done' ∧ done ⊆ done' ∧ ∀ d ∈ done', g.Ends d := by
  induction h generalizing done' with
  | @nil _ done =>
    cases hr
    exact ⟨List.nil_subset done, List.Subset.refl done, hdone⟩
  | closes _ _ => cases hr
  | known _ _ hd _ ih =>
    obtain ⟨hts, hsub, hends⟩ := ih hdone hr
    exact ⟨List.cons_subset.mpr ⟨hsub hd, hts⟩, hsub, hends⟩
  | stops _ _ _ _ _ => cases hr
  | @finishes _ done mid t ts _ _ _ _ _ _ _ ihbelow ihrest =>
    obtain ⟨hbelow, hsub, hends⟩ := ihbelow hdone rfl
    -- Every successor of `t` was finished below it.
    have ht : g.Ends t := .intro t fun b hb => hends b (hbelow (mem_nextOf.mpr hb))
    have hmid : ∀ d ∈ t :: mid, g.Ends d := by
      intro d hmem
      rcases List.mem_cons.mp hmem with rfl | hmem
      · exact ht
      · exact hends d hmem
    obtain ⟨hts, hsub', hends'⟩ := ihrest hmid hr
    obtain ⟨ht', hmid'⟩ := List.cons_subset.mp hsub'
    exact ⟨List.cons_subset.mpr ⟨ht', hts⟩, List.Subset.trans hsub hmid', hends'⟩

theorem Ends.of_reaches {g : Graph} {a b : Int} (h : g.Ends a) (hr : g.Reaches a b) : g.Ends b := by
  induction hr with
  | refl => exact h
  | tail _ hedge ih => exact ih.inv hedge

theorem Ends.not_onCycle {g : Graph} {a : Int} (h : g.Ends a) : ¬ g.OnCycle a := by
  -- The induction is on the length of the walks that are left: the successor of `a` on the cycle is
  -- on it too, and has shorter ones.
  induction h with
  | intro a _ ih =>
    intro hcyc
    obtain ⟨b, hedge, hrest⟩ := Relation.TransGen.head'_iff.mp hcyc
    exact ih b hedge (.tail' hrest hedge)

theorem Ends.acyclic {g : Graph} (h : g.Ends g.entry) : g.Acyclic := by
  rintro ⟨c, hreach, hcyc⟩
  exact (h.of_reaches hreach).not_onCycle hcyc

/-- The node that a search ended at, if it ended at a cycle. -/
def cycleOf : Except Int (List Int) → Option Int
  | .error c => some c
  | .ok _ => none

/-- On a placed graph the search without a bound comes to an end, with the answer of `findCycle`. -/
theorem explores_findCycle {g : Graph} (hp : g.Placed) :
    ∃ r, Explores g [] [] [g.entry] r ∧ g.findCycle = cycleOf r := by
  refine ⟨_, explores_search hp (g.nodes.length + 1) [] [] g.entry List.nodup_nil (by simp)
    hp.entry (by simp), ?_⟩
  unfold findCycle cycleOf
  cases search g (g.nodes.length + 1) [] [] g.entry <;> rfl

theorem findCycle_onCycle {g : Graph} (hp : g.Placed) {c : Int} (h : g.findCycle = some c) :
    g.Reaches g.entry c ∧ g.OnCycle c := by
  obtain ⟨r, hexp, heq⟩ := explores_findCycle hp
  cases r with
  | ok done => simp [heq, cycleOf] at h
  | error d =>
    have hdc : d = c := by simpa [heq, cycleOf] using h
    -- No node is active at first, so there is nothing to know of the active ones.
    obtain ⟨⟨t, ht, hreach⟩, hcyc⟩ := hexp.onCycle (by simp) (congrArg Except.error hdc)
    exact ⟨List.mem_singleton.mp ht ▸ hreach, hcyc⟩

theorem ends_of_findCycle_none {g : Graph} (hp : g.Placed) (h : g.findCycle = none) :
    g.Ends g.entry := by
  obtain ⟨r, hexp, heq⟩ := explores_findCycle hp
  cases r with
  | error c => simp [heq, cycleOf] at h
  | ok done =>
    obtain ⟨hmem, -, hends⟩ := hexp.ends_of_ok (by simp) rfl
    exact hends g.entry (hmem (by simp))

theorem findCycle_eq_none_iff {g : Graph} (hp : g.Placed) : g.findCycle = none ↔ g.Acyclic := by
  constructor
  · exact fun h => (ends_of_findCycle_none hp h).acyclic
  · intro h
    cases hc : g.findCycle with
    | none => rfl
    | some c => exact absurd ⟨c, findCycle_onCycle hp hc⟩ h

/-- What the check answers, by the two questions it asks. -/
theorem check_of_placed {g : Graph} (hp : g.Placed) :
    g.check = match g.findCycle with
      | some c => .error (.cycle c)
      | none => .ok () := by
  obtain ⟨hentry, hfaults⟩ := g.placed_iff.mp hp
  cases hc : g.findCycle <;>
    simp only [check, hentry, hfaults, hc, Bool.false_eq_true, ↓reduceIte]

theorem placed_of_check {g : Graph} (h : g.check = .ok ()) : g.Placed := by
  rw [placed_iff]
  unfold check at h
  split at h
  · simp at h
  · next hentry =>
    refine ⟨Bool.eq_false_iff.mpr hentry, ?_⟩
    split at h
    · assumption
    · simp at h

/-- A graph that is not placed is refused before any search. -/
theorem check_of_not_placed {g : Graph} (h : ¬ g.Placed) :
    g.check = .error (.entry g.entry) ∨
      ∃ fs, fs ≠ [] ∧ g.check = .error (.nodes fs) := by
  rw [placed_iff, not_and] at h
  cases hentry : (g.slot? g.entry).isNone with
  | true => exact .inl (by simp [check, hentry])
  | false =>
    refine .inr ⟨faultsFrom g 0 g.nodes, h hentry, ?_⟩
    simp only [check, hentry, Bool.false_eq_true, ↓reduceIte]
    split
    · exact absurd (by assumption) (h hentry)
    · rfl

/-- A graph that passes its check is placed, and every walk from its entry ends. -/
theorem ends_of_check {g : Graph} (h : g.check = .ok ()) : g.Ends g.entry := by
  have hp := placed_of_check h
  refine ends_of_findCycle_none hp ?_
  rw [check_of_placed hp] at h
  cases hc : g.findCycle with
  | none => rfl
  | some c => simp [hc] at h

/-- The check accepts exactly the placed graphs without a cycle that the entry leads to. Graphs that
are not placed are refused before any search; on a placed graph the search comes to an end without
a bound and never looks for a node that is not there, and if there is such a cycle it names a node
of one. -/
theorem check_exact (g : Graph) :
    (g.check = .ok () ↔ g.Placed ∧ g.Acyclic) ∧
    (¬ g.Placed → g.check = .error (.entry g.entry) ∨
      ∃ fs, fs ≠ [] ∧ g.check = .error (.nodes fs)) ∧
    (g.Placed → ∃ r, Explores g [] [] [g.entry] r ∧ g.findCycle = cycleOf r) ∧
    (g.Placed → ¬ g.Acyclic → ∃ c, g.findCycle = some c ∧ g.check = .error (.cycle c) ∧
      g.Reaches g.entry c ∧ g.OnCycle c) := by
  refine ⟨⟨fun h => ⟨placed_of_check h, (ends_of_check h).acyclic⟩, ?_⟩,
    check_of_not_placed, explores_findCycle, ?_⟩
  · rintro ⟨hp, hacyc⟩
    rw [check_of_placed hp, (findCycle_eq_none_iff hp).mpr hacyc]
  · intro hp hcyc
    obtain ⟨c, hc⟩ := Option.ne_none_iff_exists'.mp (mt (findCycle_eq_none_iff hp).mp hcyc)
    exact ⟨c, hc, by rw [check_of_placed hp, hc], findCycle_onCycle hp hc⟩

/-- The check names the only node of a graph in which that node leads back to itself. -/
theorem check_exact_loop :
    let g : Graph := ⟨[some (.assign 0 0 0)], [⟨0, .assign, "a", .empty, .empty, ⟨"", 0⟩⟩], 0⟩
    g.Placed ∧ ¬ g.Acyclic ∧ g.check = .error (.cycle 0) ∧
      ∃ c, g.findCycle = some c ∧ g.check = .error (.cycle c) ∧
        g.Reaches g.entry c ∧ g.OnCycle c := by
  intro g
  have hp : g.Placed := (placed_iff g).mpr (by decide)
  have hcyc : ¬ g.Acyclic := fun h => h ⟨0, .refl, .single ⟨.assign 0 0 0, by decide⟩⟩
  exact ⟨hp, hcyc, by decide, (check_exact g).2.2.2 hp hcyc⟩

end Courier.Graph
