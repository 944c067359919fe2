import Courier.Proofs.Run.Bounded

/-! Runs that stop before their end, as parts of the run that nothing interrupts.
The uninterrupted run is taken node by node, without a budget and without anyone to call it off, so
that it is defined on graphs with cycles too. Every walk is such a run up to where it stops. -/
namespace Courier

/-- What a run has done: the names it has bound and in which order, its reply and its decision. -/
def Context.effects (c : Context) : Keyed Value × List String × Option Value × Bool :=
  (c.bindings, c.assigned, c.reply, c.decision)

namespace Graph

/-- No position of the graph is a gap. -/
def Full (g : Graph) : Prop := none ∉ g.nodes

theorem Full.slot?_ne_gap {g : Graph} (h : g.Full) (i : Int) : g.slot? i ≠ some none := by
  intro hs
  obtain ⟨k, -, hk⟩ := at?_eq_some hs
  exact h (List.mem_of_getElem? hk)

/-- One node of the uninterrupted run: where it goes from there and in which context, if the node is
there and does not fail. -/
def advance (g : Graph) (s : Int × Context) : Option (Int × Context) :=
  match g.node? s.1 with
  | none => none
  | some n =>
    match Visitor.visit n (s.2.arrive s.1) with
    | .ok d => some (n.successor d.decision, d)
    | .error _ => none

/-- The uninterrupted run from `s` after its first `k` nodes, if it has as many. -/
def onward (g : Graph) : Nat → Int × Context → Option (Int × Context)
  | 0, s => some s
  | k + 1, s => (g.advance s).bind (g.onward k)

variable {g : Graph} {s t : Int × Context}

theorem advance_eq_some (h : g.advance s = some t) :
    ∃ n, g.node? s.1 = some n ∧ Visitor.visit n (s.2.arrive s.1) = .ok t.2 := by
  unfold advance at h
  split at h
  · cases h
  · next n hn =>
    split at h
    · next d hd =>
      cases h
      exact ⟨n, hn, hd⟩
    · cases h

theorem advance_of_ok {cur : Int} {c d : Context} {n : Node} (hn : g.node? cur = some n)
    (hd : Visitor.visit n (c.arrive cur) = .ok d) :
    g.advance (cur, c) = some (n.successor d.decision, d) := by
  simp only [advance, hn, hd]

theorem advance_of_error {cur : Int} {c : Context} {n : Node} {err : VisitError}
    (hn : g.node? cur = some n) (herr : Visitor.visit n (c.arrive cur) = .error err) :
    g.advance (cur, c) = none := by
  simp only [advance, hn, herr]

theorem onward_succ (k : Nat) (s : Int × Context) :
    g.onward (k + 1) s = (g.onward k s).bind g.advance := by
  induction k generalizing s with
  | zero =>
    change (g.advance s).bind some = g.advance s
    exact Option.bind_fun_some _
  | succ k ih =>
    change (g.advance s).bind (g.onward (k + 1)) = ((g.advance s).bind (g.onward k)).bind g.advance
    cases g.advance s with
    | none => rfl
    | some u => exact ih u

/-- Each node counts one step, and the request stays the same. -/
theorem onward_frame {k : Nat} (h : g.onward k s = some t) :
    t.2.steps = s.2.steps + k ∧ t.2.request = s.2.request := by
  induction k generalizing t with
  | zero =>
    cases h
    exact ⟨rfl, rfl⟩
  | succ k ih =>
    rw [onward_succ] at h
    obtain ⟨u, hu, hadv⟩ := Option.bind_eq_some_iff.mp h
    obtain ⟨hsteps, hrequest⟩ := ih hu
    obtain ⟨n, -, hvisit⟩ := advance_eq_some hadv
    obtain ⟨hm, hp, hcount⟩ := Visitor.visit_frame hvisit
    have hcount' : t.2.steps = u.2.steps + 1 := hcount
    refine ⟨by omega, ?_⟩
    rw [← hrequest, Context.request, hm, hp]
    rfl

/-- A run that has come to `n` nodes has gone on from each of the places before. -/
theorem advance_of_onward {k n : Nat} (h : g.onward n s = some t) (hk : k < n) :
    ∃ u v, g.onward k s = some u ∧ g.advance u = some v := by
  induction n generalizing t with
  | zero => omega
  | succ n ih =>
    rw [onward_succ] at h
    obtain ⟨u, hu, hadv⟩ := Option.bind_eq_some_iff.mp h
    by_cases hkn : k = n
    · subst hkn
      exact ⟨u, t, hu, hadv⟩
    · exact ih hu (by omega)

end Graph

namespace Visitor

variable {n : Node} {c d : Context}

theorem of_standard_done (h : standard n c = (d, .done)) : visit n c = .ok d := by
  unfold standard at h
  split at h
  · next hd =>
    cases h
    exact hd
  · cases h

theorem of_standard_failed {err : VisitError} (h : standard n c = (d, .failed err)) :
    visit n c = .error err ∧ d = c := by
  unfold standard at h
  split at h
  · cases h
  · next herr =>
    cases h
    exact ⟨herr, rfl⟩

theorem standard_not_panicked {t : String} : standard n c ≠ (d, .panicked t) := by
  intro h
  unfold standard at h
  split at h <;> cases h

end Visitor

namespace Engine

variable {e : Engine} {g : Graph} {look : Interrupts}

/-- A walk that has come to `cur` in context `d` with `left` steps left and gets no further: how it leaves
the context, and why. -/
inductive Halts (e : Engine) (g : Graph) (look : Interrupts) (left : Nat) (cur : Int)
    (d : Context) : Context × Option WalkError → Prop
  | ended (hcur : cur = noNode) : Halts e g look left cur d (d, none)
  | interrupted {i : Interruption} (hlook : look d.steps = some i) :
      Halts e g look left cur d (d, some (.interrupted i))
  | missing (hcur : g.node? cur = none) :
      Halts e g look left cur d (d, some (.nodeNotFound cur))
  | exhausted {n : Node} (hn : g.node? cur = some n) (hlook : look d.steps = none)
      (hleft : left = 0) : Halts e g look left cur d
        ({ d with cursor := cur }, some (.stepLimit cur e.maxSteps))
  | crashed {t : String} :
      Halts e g look left cur d (d.arrive cur, some (.panicked cur (.raised t)))
  | failed {n : Node} {err : VisitError} (hn : g.node? cur = some n) (hleft : left ≠ 0)
      (herr : Visitor.visit n (d.arrive cur) = .error err) : Halts e g look left cur d
        (d.arrive cur, some (.dispatch cur n.kind n.parent err))

/-- Every walk with fuel for just the steps that are left is the uninterrupted run up to the node at which
it halts. -/
theorem walkFrom_halts (hv : e.visitor = Visitor.standard) (hfull : g.Full) (look : Interrupts)
    (fuel : Nat) (cur : Int) (c : Context) (hfuel : c.steps + fuel = e.maxSteps) : ∃ k left cur' d,
      g.onward k (cur, c) = some (cur', d) ∧ (∀ j < k, look (c.steps + j) = none) ∧
      k + left = fuel ∧
      Halts e g look left cur' d (e.walkFrom g look fuel cur c).ending := by
  have hhere {fuel : Nat} {cur : Int} {c : Context} {w : Walked}
      (h : Halts e g look fuel cur c w.ending) : ∃ k left cur' d,
        g.onward k (cur, c) = some (cur', d) ∧ (∀ j < k, look (c.steps + j) = none) ∧
        k + left = fuel ∧ Halts e g look left cur' d w.ending :=
    ⟨0, fuel, cur, c, rfl, fun j hj => absurd hj (Nat.not_lt_zero j), Nat.zero_add fuel, h⟩
  fun_induction walkFrom e g look fuel cur c with
  | case1 => exact hhere (.ended rfl)
  | case2 _ _ _ _ _ hlook => exact hhere (.interrupted hlook)
  | case3 _ _ _ _ _ hs => exact hhere (.missing (by rw [Graph.node?, hs]; rfl))
  | case4 fuel _ c _ hlook slot hs _ hspent =>
    cases slot with
    | none => exact absurd hs (hfull.slot?_ne_gap _)
    | some n =>
      have hused : e.maxSteps ≤ c.steps := hspent
      exact hhere (.exhausted (Graph.node?_eq_some_iff.mpr hs) hlook (by omega))
  | case5 _ c _ _ _ _ _ hmore =>
    -- With steps left there is fuel left.
    have hsome : ¬ e.maxSteps ≤ c.steps := hmore
    omega
  | case6 _ _ _ _ _ _ _ _ hs => exact absurd hs (hfull.slot?_ne_gap _)
  | case7 => exact hhere .crashed
  | case8 cur c _ hlook _ _ fuel arrived n _ _ d hd hs ih =>
    rw [hv] at hd
    have hvisit : Visitor.visit n (c.arrive cur) = .ok d := Visitor.of_standard_done hd
    have hsteps : d.steps = c.steps + 1 := (Visitor.visit_frame hvisit).2.2
    obtain ⟨k, left, cur', d', honward, hquiet, hsum, hhalts⟩ := ih (by omega)
    refine ⟨k + 1, left, cur', d', ?_, ?_, by omega, hhalts⟩
    · rw [Graph.onward, Graph.advance_of_ok (Graph.node?_eq_some_iff.mpr hs) hvisit]
      exact honward
    · intro j hj
      cases j with
      | zero => exact hlook
      | succ j =>
        have hj' := hquiet j (by omega)
        rwa [hsteps, show c.steps + 1 + j = c.steps + (j + 1) by omega] at hj'
  | case9 cur c _ _ _ _ _ arrived n _ _ d err hd hs =>
    rw [hv] at hd
    obtain ⟨herr, rfl⟩ := Visitor.of_standard_failed hd
    exact hhere (.failed (Graph.node?_eq_some_iff.mpr hs) (Nat.succ_ne_zero _) herr)
  | case10 _ _ _ _ _ _ _ _ _ _ _ _ _ hd =>
    rw [hv] at hd
    exact absurd hd Visitor.standard_not_panicked

/-- How many nodes ran in a run of `steps` steps that stopped so: the last of them did not if it
failed, or if an observer crashed before it ran. -/
def nodesRun (stop : Option WalkError) (steps : Nat) : Nat :=
  match stop with
  | some (.dispatch ..) => steps - 1
  | some (.panicked ..) => steps - 1
  | _ => steps

/-- Halting at a node changes nothing but the count and the cursor. -/
theorem Halts.frame {left : Nat} {cur : Int} {d c : Context} {stop : Option WalkError}
    (h : Halts e g look left cur d (c, stop)) :
    c.effects = d.effects ∧ nodesRun stop c.steps = d.steps := by
  cases h with
  | ended | interrupted | missing | exhausted | crashed | failed => exact ⟨rfl, rfl⟩

theorem visitEvent_congr {c d : Context} (h : d.request = c.request) (v : Visit) :
    visitEvent g d v = visitEvent g c v := by
  have hmessage : d.message = c.message := congrArg Prod.fst h
  have hprogram : d.program = c.program := congrArg Prod.snd h
  simp only [visitEvent, Context.programName, hmessage, hprogram]

/-- An ordinary walk is stopped by a crash exactly if some observer crashed at a node. -/
theorem walkFrom_panicked_iff (hv : e.visitor = Visitor.standard) (hfull : g.Full)
    (look : Interrupts) (fuel : Nat) (cur : Int) (c : Context) :
    (∃ id t, (e.walkFrom g look fuel cur c).stop = some (.panicked id t)) ↔
      ∃ v ∈ (e.walkFrom g look fuel cur c).visits, ∃ t, e.tell (visitEvent g c v) = some t := by
  have hkeeps : e.visitor.Keeps := hv ▸ Visitor.standard_keeps
  fun_induction walkFrom e g look fuel cur c with
  | case1 | case2 | case3 | case4 | case5 => simp
  | case6 _ _ _ _ _ _ _ _ hs => exact absurd hs (hfull.slot?_ne_gap _)
  | case7 _ _ _ _ _ _ _ _ _ v t htell =>
    exact ⟨fun _ => ⟨v, List.mem_cons_self, t, htell⟩, fun _ => ⟨_, _, rfl⟩⟩
  | case8 cur c _ _ _ _ fuel arrived n v htell d hd hs ih =>
    have hrequest := hkeeps n arrived
    rw [hd] at hrequest
    have hsame (w : Visit) : visitEvent g d w = visitEvent g c w := visitEvent_congr hrequest w
    -- The node that was just visited crashed no observer, so the question is about the rest.
    constructor
    · intro hstop
      obtain ⟨w, hw, t, ht⟩ := ih.mp hstop
      exact ⟨w, List.mem_cons_of_mem v hw, t, hsame w ▸ ht⟩
    · rintro ⟨w, hw, t, ht⟩
      rcases List.mem_cons.mp hw with hwv | hw
      · rw [hwv] at ht
        cases htell.symm.trans ht
      · exact ih.mpr ⟨w, hw, t, (hsame w).symm ▸ ht⟩
  | case9 _ _ _ _ _ _ _ _ _ v htell =>
    constructor
    · rintro ⟨id, t, hstop⟩
      cases hstop
    · rintro ⟨w, hw, t, ht⟩
      rw [List.mem_singleton.mp hw] at ht
      cases htell.symm.trans ht
  | case10 _ _ _ _ _ _ _ _ _ _ _ _ _ hd =>
    rw [hv] at hd
    exact absurd hd Visitor.standard_not_panicked

/-- A walk halts where the run goes on only if it is called off, out of budget, or crashed. -/
theorem Halts.of_advance {left : Nat} {cur : Int} {d c : Context} {stop : Option WalkError}
    (h : Halts e g look left cur d (c, stop)) {s : Int × Context}
    (hadv : g.advance (cur, d) = some s) :
    (∃ i, look d.steps = some i) ∨ left = 0 ∨ ∃ id t, stop = some (.panicked id t) := by
  obtain ⟨n, hn, hvisit⟩ := Graph.advance_eq_some hadv
  cases h with
  | ended hcur =>
    rw [hcur, Graph.node?_noNode] at hn
    cases hn
  | interrupted hlook => exact .inl ⟨_, hlook⟩
  | missing hcur =>
    rw [hcur] at hn
    cases hn
  | exhausted _ _ hleft => exact .inr (.inl hleft)
  | crashed => exact .inr (.inr ⟨_, _, rfl⟩)
  | failed hn' _ herr =>
    rw [hn] at hn'
    cases hn'
    rw [hvisit] at herr
    cases herr

section Fresh

variable {p : Program} {m : Message}

/-- A fresh request that ended in a result was the uninterrupted run up to the node at which its
walk halted. -/
theorem execute_halts (hv : e.visitor = Visitor.standard) (hfull : g.Full) (hg : p.graph = some g)
    {r : Result} {stop : Option WalkError}
    (h : (e.execute look (.start m (some p))).outcome = .finished r stop) :
    ∃ k left cur d, g.onward k (g.entry, .start m (some p)) = some (cur, d) ∧ d.steps = k ∧
      (∀ j < k, look j = none) ∧ k + left = e.maxSteps ∧
      Halts e g look left cur d ((e.execute look (.start m (some p))).context, stop) ∧
      ∃ failure, r = resultOf (e.execute look (.start m (some p))).context failure := by
  obtain ⟨hstart, ⟨failure, hr⟩, hstop, -⟩ := of_execute_finished h
  have hcontext : (e.execute look (.start m (some p))).context =
      (e.walk look (.start m (some p))).context := by
    rw [execute_context, hstart]
  obtain ⟨k, left, cur, d, honward, hquiet, hsum, hhalts⟩ :=
    walkFrom_halts hv hfull look e.maxSteps g.entry (.start m (some p)) (Nat.zero_add _)
  rw [← walk_start e look m hg, Walked.ending, hstop, ← hcontext] at hhalts
  refine ⟨k, left, cur, d, honward, ?_, ?_, hsum, hhalts, failure, by rw [hcontext]; exact hr⟩
  · exact (Graph.onward_frame honward).1.trans (Nat.zero_add k)
  · intro j hj
    have hlook := hquiet j hj
    rwa [show (Context.start m (some p)).steps + j = j from Nat.zero_add j] at hlook

/-- The walk of a fresh request crashed exactly if it told an observer of a node that crashed it. -/
theorem walk_panicked_iff (hv : e.visitor = Visitor.standard) (hfull : g.Full)
    (hg : p.graph = some g) :
    (∃ id t, (e.walk look (.start m (some p))).stop = some (.panicked id t)) ↔
      ∃ v ∈ (e.walk look (.start m (some p))).visits, ∃ t,
        e.tell (visitEvent g (.start m (some p)) v) = some t := by
  rw [walk_start e look m hg]
  exact walkFrom_panicked_iff hv hfull look e.maxSteps g.entry _

/-- A walk that nothing else stops runs out of budget where the uninterrupted run goes on. -/
theorem walk_stepLimit (hv : e.visitor = Visitor.standard) (hfull : g.Full) (hg : p.graph = some g)
    {cur : Int} {d : Context} {n : Node}
    (honward : g.onward e.maxSteps (g.entry, .start m (some p)) = some (cur, d))
    (hn : g.node? cur = some n) (hlook : ∀ k ≤ e.maxSteps, look k = none)
    (hcalm : ¬ ∃ id t, (e.walk look (.start m (some p))).stop = some (.panicked id t)) :
    (e.walk look (.start m (some p))).stop = some (.stepLimit cur e.maxSteps) := by
  obtain ⟨k, left, cur', d', honward', -, hsum, hhalts⟩ :=
    walkFrom_halts hv hfull look e.maxSteps g.entry (.start m (some p)) (Nat.zero_add _)
  rw [← walk_start e look m hg, Walked.ending] at hhalts
  have hsteps : d'.steps = k := (Graph.onward_frame honward').1.trans (Nat.zero_add k)
  have hfree : look d'.steps = none := by
    rw [hsteps]
    exact hlook k (by omega)
  -- The walk has come as far as the budget goes, for nothing else could have stopped it before.
  have hk : k = e.maxSteps := by
    by_contra hne
    obtain ⟨u, v, hu, hadv⟩ := Graph.advance_of_onward honward (k := k) (by omega)
    rw [honward'] at hu
    cases hu
    rcases hhalts.of_advance hadv with ⟨i, hi⟩ | hzero | hpanic
    · rw [hfree] at hi
      cases hi
    · omega
    · exact hcalm hpanic
  rw [hk, honward] at honward'
  cases honward'
  generalize (e.walk look (.start m (some p))).context = c at hhalts
  generalize (e.walk look (.start m (some p))).stop = stop at hhalts hcalm ⊢
  cases hhalts with
  | exhausted => rfl
  | ended hcur =>
    rw [hcur, Graph.node?_noNode] at hn
    cases hn
  | interrupted hi =>
    rw [hfree] at hi
    cases hi
  | missing hcur =>
    rw [hcur] at hn
    cases hn
  | crashed => exact absurd ⟨_, _, rfl⟩ hcalm
  | failed _ hleft => omega

/-- A request that ran out of budget has come to a node that the uninterrupted run goes on at, with
all of its budget spent. -/
theorem of_execute_stepLimit (hv : e.visitor = Visitor.standard) (hfull : g.Full)
    (hg : p.graph = some g) {r : Result} {id : Int} {limit : Nat}
    (h : (e.execute look (.start m (some p))).outcome = .finished r (some (.stepLimit id limit))) :
    r.steps = e.maxSteps ∧ (∀ k ≤ e.maxSteps, look k = none) ∧
      ∃ d n, g.onward e.maxSteps (g.entry, .start m (some p)) = some (id, d) ∧
        g.node? id = some n := by
  obtain ⟨k, left, cur, d, honward, hsteps, hquiet, hsum, hhalts, failure, hr⟩ :=
    execute_halts hv hfull hg h
  generalize (e.execute look (.start m (some p))).context = c at hhalts hr
  cases hhalts with
  | @exhausted n hn hlook hzero =>
    have hk : k = e.maxSteps := by omega
    refine ⟨?_, ?_, d, n, hk ▸ honward, hn⟩
    · rw [hr, ← hk, ← hsteps]
      rfl
    · intro j hj
      rcases Nat.lt_or_ge j k with hlt | hge
      · exact hquiet j hlt
      · rwa [hsteps, show k = j by omega] at hlook

/-- No observer crashed in a request that ended in a result without a crash in its walk. -/
theorem tell_eq_none_of_finished (hv : e.visitor = Visitor.standard) (hfull : g.Full)
    (hg : p.graph = some g) {r : Result} {stop : Option WalkError}
    (h : (e.execute look (.start m (some p))).outcome = .finished r stop)
    (hcalm : ∀ id t, stop ≠ some (.panicked id t)) :
    ∀ ev ∈ (e.execute look (.start m (some p))).events, e.tell ev = none := by
  have hgraph : (Context.start m (some p)).graph = some g := hg
  obtain ⟨hstart, -, hstop, hcomplete, hevents⟩ := of_execute_finished h
  intro ev hev
  rcases hevents ev hev with rfl | ⟨g', hg', v, hmem, rfl⟩ | rfl
  · exact hstart
  · rw [hgraph] at hg'
    cases hg'
    by_contra htell
    obtain ⟨t, ht⟩ := Option.ne_none_iff_exists'.mp htell
    obtain ⟨id, t', hpanic⟩ := (walk_panicked_iff hv hfull hg).mpr ⟨v, hmem, t, ht⟩
    exact hcalm id t' (hstop ▸ hpanic)
  · exact hcomplete

/-- A request whose observers do not crash ends in a result for the reason its walk stopped, and
that is no crash. -/
theorem finished_of_tell_eq_none (hv : e.visitor = Visitor.standard) (hfull : g.Full)
    (hg : p.graph = some g)
    (hquiet : ∀ ev ∈ (e.execute look (.start m (some p))).events, e.tell ev = none) :
    (¬ ∃ id t, (e.walk look (.start m (some p))).stop = some (.panicked id t)) ∧
      ∃ r, (e.execute look (.start m (some p))).outcome =
        .finished r (e.walk look (.start m (some p))).stop := by
  have hgraph : (Context.start m (some p)).graph = some g := hg
  have hstart : e.tell (.requestStart (Context.start m (some p)).message.id
      (Context.start m (some p)).programName) = none := by
    by_contra htell
    obtain ⟨t, ht⟩ := Option.ne_none_iff_exists'.mp htell
    exact htell (hquiet _ (requestStart_mem_events ht))
  constructor
  · rw [walk_panicked_iff hv hfull hg]
    rintro ⟨v, hmem, t, ht⟩
    have hnone := hquiet _ (visitEvent_mem_events hgraph hstart hmem ht)
    rw [ht] at hnone
    cases hnone
  · have hgap : ∀ g', (Context.start m (some p)).graph = some g' →
        ∀ i, g'.slot? i ≠ some none := by
      intro g' hg'
      rw [hgraph] at hg'
      exact Option.some.inj hg' ▸ hfull.slot?_ne_gap
    obtain ⟨err, hout⟩ := execute_finished (hv ▸ Visitor.standard_keeps) hgap look hquiet
    exact ⟨_, by rw [hout, (of_execute_finished hout).2.2.1]⟩

/-- A request that does not run out of budget does not notice a larger one. -/
theorem execute_raise (hg : p.graph = some g)
    (h : ∀ id l, (e.walk look (.start m (some p))).stop ≠ some (.stepLimit id l)) {limit : Nat}
    (hlimit : e.maxSteps ≤ limit) :
    ({ e with maxSteps := limit } : Engine).execute look (.start m (some p)) =
      e.execute look (.start m (some p)) := by
  have hwalk : ({ e with maxSteps := limit } : Engine).walk look (.start m (some p)) =
      e.walk look (.start m (some p)) := by
    rw [walk_start e look m hg] at h ⊢
    rw [walk_start _ look m hg]
    have hraise := walkFrom_extend e g look hlimit (limit - e.maxSteps) e.maxSteps g.entry _
      fun id l hstop => absurd hstop (h id l)
    rwa [show e.maxSteps + (limit - e.maxSteps) = limit by omega] at hraise
  have htells (ev : Event) : ({ e with maxSteps := limit } : Engine).tell ev = e.tell ev := rfl
  simp only [execute, hwalk, htells]

end Fresh

section Reasons

variable {left : Nat} {cur : Int} {d c : Context}

/-- A walk that nothing stopped has come to the end of the graph. -/
theorem Halts.eq_noNode (h : Halts e g look left cur d (c, none)) : cur = noNode := by
  cases h with
  | ended hcur => exact hcur

theorem Halts.look_eq_some {i : Interruption}
    (h : Halts e g look left cur d (c, some (.interrupted i))) : look c.steps = some i := by
  cases h with
  | interrupted hlook => exact hlook

/-- A node that fails is counted, and the uninterrupted run fails at it too. -/
theorem Halts.advance_eq_none {id s : Int} {kind : NodeKind} {err : VisitError}
    (h : Halts e g look left cur d (c, some (.dispatch id kind s err))) :
    c.steps = d.steps + 1 ∧ g.advance (cur, d) = none := by
  cases h with
  | failed hn _ herr => exact ⟨rfl, Graph.advance_of_error hn herr⟩

end Reasons

/-- A request to a graph without gaps, which may have cycles or be broken in any other way, is a
part of the uninterrupted run. It shows what that run has done after as many nodes as the request
has counted, without the last one if that one failed, and the uninterrupted run fails there too. It
runs out of budget exactly if the uninterrupted run would dispatch more nodes and neither a call
from outside nor a crash of an observer stops it first; the budget is then spent. A run that does
not run out of budget is the same with a larger one. -/
theorem execute_truncates (hv : e.visitor = Visitor.standard) (hfull : g.Full) {p : Program}
    (hg : p.graph = some g) (m : Message) (look : Interrupts) :
    let x := e.execute look (.start m (some p))
    let run (k : Nat) := g.onward k (g.entry, .start m (some p))
    (∀ r stop, x.outcome = .finished r stop → r.steps = x.context.steps ∧ ∃ cur d,
      run (nodesRun stop x.context.steps) = some (cur, d) ∧ (stop = none → cur = noNode) ∧
      x.context.effects = d.effects ∧ r.bindings = some d.bindings ∧
      r.value = d.reply.getD .null) ∧
    (∀ r id kind s err, x.outcome = .finished r (some (.dispatch id kind s err)) →
      0 < x.context.steps ∧ run x.context.steps = none) ∧
    (∀ r i, x.outcome = .finished r (some (.interrupted i)) → look x.context.steps = some i) ∧
    (∀ r id limit, x.outcome = .finished r (some (.stepLimit id limit)) →
      r.steps = e.maxSteps) ∧
    ((∃ r id limit, x.outcome = .finished r (some (.stepLimit id limit))) ↔
      (∃ cur d, run e.maxSteps = some (cur, d) ∧ (g.node? cur).isSome) ∧
      (∀ k ≤ e.maxSteps, look k = none) ∧ ∀ ev ∈ x.events, e.tell ev = none) ∧
    ∀ limit, e.maxSteps ≤ limit →
      (∀ id l, (e.walk look (.start m (some p))).stop ≠ some (.stepLimit id l)) →
      ({ e with maxSteps := limit } : Engine).execute look (.start m (some p)) = x := by
  intro x run
  refine ⟨?_, ?_, ?_, ?_, ⟨?_, ?_⟩, fun limit hlimit h => execute_raise hg h hlimit⟩
  · intro r stop hout
    obtain ⟨k, left, cur, d, honward, hsteps, -, -, hhalts, failure, hr⟩ :=
      execute_halts hv hfull hg hout
    obtain ⟨heffects, hran⟩ := hhalts.frame
    have hk : nodesRun stop x.context.steps = k := hran.trans hsteps
    have hend : stop = none → cur = noNode := by
      rintro rfl
      exact hhalts.eq_noNode
    refine ⟨by rw [hr]; rfl, cur, d, hk ▸ honward, hend, heffects, ?_, ?_⟩
    · rw [hr]
      exact congrArg some (congrArg (fun f => f.1) heffects)
    · rw [hr]
      exact congrArg (fun f => f.2.2.1.getD .null) heffects
  · intro r id kind s err hout
    obtain ⟨k, left, cur, d, honward, hsteps, -, -, hhalts, -⟩ := execute_halts hv hfull hg hout
    obtain ⟨hcount, hstuck⟩ := hhalts.advance_eq_none
    have hk : x.context.steps = k + 1 := hsteps ▸ hcount
    refine ⟨by omega, ?_⟩
    change g.onward x.context.steps _ = none
    rw [hk, Graph.onward_succ, honward]
    exact hstuck
  · intro r i hout
    obtain ⟨k, left, cur, d, -, -, -, -, hhalts, -⟩ := execute_halts hv hfull hg hout
    exact hhalts.look_eq_some
  · exact fun r id limit hout => (of_execute_stepLimit hv hfull hg hout).1
  · rintro ⟨r, id, limit, hout⟩
    obtain ⟨-, hlook, d, n, honward, hn⟩ := of_execute_stepLimit hv hfull hg hout
    refine ⟨⟨id, d, honward, by rw [hn]; rfl⟩, hlook, ?_⟩
    exact tell_eq_none_of_finished hv hfull hg hout (by simp)
  · rintro ⟨⟨cur, d, honward, hnode⟩, hlook, hquiet⟩
    obtain ⟨n, hn⟩ := Option.isSome_iff_exists.mp hnode
    obtain ⟨hcalm, r, hout⟩ := finished_of_tell_eq_none hv hfull hg hquiet
    have hstop := walk_stepLimit hv hfull hg honward hn hlook hcalm
    exact ⟨r, cur, e.maxSteps, hstop ▸ hout⟩

/-- A node that leads back to itself: the uninterrupted run never ends, and a request with a budget
of two shows what it has done after two nodes. -/
theorem execute_truncates_loop :
    let g : Graph := ⟨[some (.assign 0 0 0)],
      [⟨0, .assign, "a", .lit (.bool true), .empty, ⟨"", 0⟩⟩], 0⟩
    let x := ({ maxSteps := 2 } : Engine).execute .never
      (.start default (some ⟨"loop", "1", some g, none⟩))
    ∃ r id limit, x.outcome = .finished r (some (.stepLimit id limit)) ∧ r.steps = 2 ∧
      x.context.effects = ([("a", .bool true)], ["a"], none, false) := by
  intro g
  have hfull : g.Full := by simp [g, Graph.Full]
  have hrun : g.onward 2 (g.entry, .start default (some ⟨"loop", "1", some g, none⟩)) =
      some (0, ⟨default, some ⟨"loop", "1", some g, none⟩, [("a", .bool true)], ["a"], 0, 2, none,
        false⟩) := rfl
  have hpart := execute_truncates (e := { maxSteps := 2 }) rfl hfull
    (p := ⟨"loop", "1", some g, none⟩) rfl default .never
  generalize ({ maxSteps := 2 } : Engine).execute .never
    (.start default (some ⟨"loop", "1", some g, none⟩)) = x at hpart ⊢
  obtain ⟨hpartial, -, -, hspent, hlimit, -⟩ := hpart
  obtain ⟨r, id, limit, hout⟩ := hlimit.mpr ⟨⟨0, _, hrun, rfl⟩, fun _ _ => rfl, fun _ _ => rfl⟩
  have hsteps : r.steps = 2 := hspent r id limit hout
  obtain ⟨hcount, cur, d, hran, -, heffects, -⟩ := hpartial r _ hout
  have htwo : x.context.steps = 2 := by omega
  have hnodes : nodesRun (some (.stepLimit id limit)) x.context.steps = 2 := htwo
  rw [hnodes] at hran
  cases hrun.symm.trans hran
  exact ⟨r, id, limit, hout, hsteps, heffects⟩

end Engine
end Courier
