import Courier.Proofs.Run.Ended
import Courier.Proofs.Run.Prefix

/-! What observers see of a run, when neither they nor its visitor crash.
A walk passes nodes that run, one after the other, and then it rests: at its end, at a node it is called
off before, at one it has no budget for, or at one that fails. What observers and the tracer are told,
the count of steps and the node that a failure is about are all read off from there. -/
namespace Courier

/-- A visitor that leaves it to the walk to say where it is. -/
def Visitor.LeavesCursor (v : Visitor) : Prop := ∀ n c, (v n c).1.cursor = c.cursor

/-- A visitor that never crashes. -/
def Visitor.Calm (v : Visitor) : Prop := ∀ n c d t, v n c ≠ (d, .panicked t)

theorem Visitor.standard_calm : Visitor.standard.Calm := fun _ _ _ _ => Visitor.standard_not_panicked

theorem Visitor.visit_cursor {n : Node} {c d : Context} (h : visit n c = .ok d) :
    d.cursor = c.cursor := by
  obtain ⟨s, hs, -⟩ := bind_eq_ok h
  cases hk : n.kind with
  | assign =>
    rw [visit_assign hs hk] at h
    obtain ⟨v, -, h⟩ := bind_eq_ok h
    obtain ⟨assigned, rfl⟩ := Context.bind_eq_ok (mapError_eq_ok h)
    rfl
  | reply =>
    rw [visit_reply hs hk] at h
    obtain ⟨v, -, h⟩ := bind_eq_ok h
    cases h
    rfl
  | branch =>
    rw [visit_branch hs hk] at h
    obtain ⟨v, -, h⟩ := bind_eq_ok h
    cases h
    rfl

theorem Visitor.standard_leavesCursor : Visitor.standard.LeavesCursor := by
  intro n c
  unfold standard
  split
  · next d hd => exact visit_cursor hd
  · rfl

theorem Graph.Trail.head_eq {g : Graph} {a b i : Int} {is : List Int} (h : g.Trail a (i :: is) b) :
    i = a := by
  cases h
  rfl

namespace Engine

variable {e : Engine} {g : Graph} {look : Interrupts}

/-- From the node `cur` in the context `c` some nodes ran, and the walk came to `b` in the context
`d`. -/
inductive Passes (e : Engine) (g : Graph) : Int → Context → List Visit → Int → Context → Prop
  | nil {cur : Int} {c : Context} : Passes e g cur c [] cur c
  | cons {cur b : Int} {c d d' : Context} {n : Node} {vs : List Visit} (hn : g.node? cur = some n)
      (hvisit : e.visitor n (c.arrive cur) = (d, .done))
      (h : Passes e g (n.successor d.decision) d vs b d') :
      Passes e g cur c (⟨cur, n, c.steps + 1⟩ :: vs) b d'

/-- What is left of a walk that came to `b` in the context `d` and passes no further node. -/
inductive Rests (e : Engine) (g : Graph) (look : Interrupts) (fuel : Nat) (b : Int) (d : Context) :
    Walked → Prop
  | ended (hb : b = noNode) : Rests e g look fuel b d ⟨d, [], none⟩
  | calledOff {i : Interruption} (hlook : look d.steps = some i) :
      Rests e g look fuel b d ⟨d, [], some (.interrupted i)⟩
  | missing (hne : b ≠ noNode) (hb : g.slot? b = none) :
      Rests e g look fuel b d ⟨d, [], some (.nodeNotFound b)⟩
  | spent {n : Node} (hn : g.node? b = some n) (hspent : e.maxSteps ≤ d.steps + fuel → e.maxSteps ≤ d.steps) :
      Rests e g look fuel b d ⟨{ d with cursor := b }, [], some (.stepLimit b e.maxSteps)⟩
  | failed {n : Node} {d' : Context} {err : VisitError} (hn : g.node? b = some n)
      (hvisit : e.visitor n (d.arrive b) = (d', .failed err)) :
      Rests e g look fuel b d
        ⟨d', [⟨b, n, d.steps + 1⟩], some (.dispatch b n.kind n.parent err)⟩

/-- A walk without crashes passes nodes until it rests. -/
theorem walkFrom_passes (he : e.Quiet) (hv : e.visitor.Calm) (hfull : ∀ i, g.slot? i ≠ some none)
    (look : Interrupts) (fuel : Nat) (cur : Int) (c : Context) :
    ∃ vs b d left last, Passes e g cur c vs b d ∧ Rests e g look left b d last ∧
      left + vs.length = fuel ∧
      e.walkFrom g look fuel cur c = { last with visits := vs ++ last.visits } := by
  have hhere {fuel : Nat} {cur : Int} {c : Context} {w : Walked}
      (h : Rests e g look fuel cur c w) : ∃ vs b d left last, Passes e g cur c vs b d ∧
        Rests e g look left b d last ∧ left + vs.length = fuel ∧
        w = { last with visits := vs ++ last.visits } :=
    ⟨[], cur, c, fuel, w, .nil, h, rfl, rfl⟩
  fun_induction walkFrom e g look fuel cur c with
  | case1 => exact hhere (.ended rfl)
  | case2 _ _ _ _ _ hlook => exact hhere (.calledOff hlook)
  | case3 _ _ _ hcur _ hs => exact hhere (.missing hcur hs)
  | case4 _ _ _ _ _ slot hs _ hspent =>
    cases slot with
    | none => exact absurd hs (hfull _)
    | some n => exact hhere (.spent (Graph.node?_eq_some_iff.mpr hs) fun _ => hspent)
  | case5 _ _ _ _ slot hs =>
    cases slot with
    | none => exact absurd hs (hfull _)
    | some n => exact hhere (.spent (Graph.node?_eq_some_iff.mpr hs) id)
  | case6 _ _ _ _ _ _ _ _ hs => exact absurd hs (hfull _)
  | case7 _ _ _ _ _ _ _ _ _ _ _ htell =>
    rw [he] at htell
    cases htell
  | case8 _ _ _ _ _ _ _ _ n _ _ d hd hs ih =>
    obtain ⟨vs, b, d', left, last, hpasses, hrests, hsum, hwalk⟩ := ih
    refine ⟨_, b, d', left, last, .cons (Graph.node?_eq_some_iff.mpr hs) hd hpasses, hrests, ?_, ?_⟩
    · rw [List.length_cons]
      omega
    · rw [hwalk]
      rfl
  | case9 _ _ _ _ _ _ _ _ n _ _ _ _ hd hs =>
    exact hhere (.failed (Graph.node?_eq_some_iff.mpr hs) hd)
  | case10 _ _ _ _ _ _ _ _ _ _ _ _ _ hd => exact absurd hd (hv _ _ _ _)

namespace Passes

variable {cur b : Int} {c d : Context} {vs : List Visit}

theorem trail (h : Passes e g cur c vs b d) : g.Trail cur (vs.map Visit.place) b := by
  induction h with
  | nil => exact .nil
  | @cons cur b c d d' n vs hn hvisit h ih =>
    exact .cons hn (n.successor_mem_targets d.decision) ih

theorem node (h : Passes e g cur c vs b d) : ∀ v ∈ vs, g.node? v.place = some v.node := by
  induction h with
  | nil => nofun
  | cons hn _ _ ih => exact List.forall_mem_cons.mpr ⟨hn, ih⟩

/-- The walk counts the nodes it passes, if that is left to it. -/
theorem steps (hv : e.visitor.LeavesSteps) (h : Passes e g cur c vs b d) :
    d.steps = c.steps + vs.length ∧ vs.map Visit.step = List.range' (c.steps + 1) vs.length := by
  induction h with
  | nil => exact ⟨rfl, rfl⟩
  | @cons cur b c d d' n vs hn hvisit h ih =>
    have hleaves := hv n (c.arrive cur)
    rw [hvisit] at hleaves
    have hsteps : d.steps = c.steps + 1 := hleaves
    rw [hsteps] at ih
    obtain ⟨hcount, hrange⟩ := ih
    rw [List.length_cons, List.map_cons, hrange, List.range'_succ]
    exact ⟨by omega, rfl⟩

/-- Where no node ran, the walk is where it was. -/
theorem eq_of_nil (h : Passes e g cur c [] b d) : b = cur ∧ d = c := by
  cases h with
  | nil => exact ⟨rfl, rfl⟩

/-- The walk came to the successor of the last node that ran, and its cursor is still there, if the
visitor leaves it. -/
theorem last (h : Passes e g cur c vs b d) : ∀ v, vs.getLast? = some v →
    v.node.successor d.decision = b ∧ (e.visitor.LeavesCursor → d.cursor = v.place) := by
  induction h with
  | nil => nofun
  | @cons cur b c d d' n vs hn hvisit h ih =>
    intro v hlast
    cases vs with
    | nil =>
      obtain ⟨rfl, rfl⟩ := h.eq_of_nil
      cases hlast
      refine ⟨rfl, fun hv => ?_⟩
      have hleaves := hv n (c.arrive cur)
      rw [hvisit] at hleaves
      exact hleaves
    | cons u us =>
      rw [List.getLast?_cons_cons] at hlast
      exact ih v hlast

end Passes

theorem failureOf_nodeId {c : Context} {err : WalkError} {f : Failure} (h : failureOf c err = some f) :
    f.nodeId = failureNode c err := by
  unfold failureOf at h
  dsimp only at h
  split at h
  · cases h
    rfl
  · split at h
    · cases h
      rfl
    · cases h
    · cases h
      rfl

theorem of_map_failureOf {c : Context} {err : WalkError} {failure : Option Failure}
    (h : (some err).map (failureOf c) = failure.map some) :
    ∃ f, failure = some f ∧ f.kind = err.kind ∧ f.nodeId = failureNode c err := by
  cases failure with
  | none => cases h
  | some f =>
    have hf : failureOf c err = some f := Option.some.inj h
    exact ⟨f, rfl, failureOf_kind hf, failureOf_nodeId hf⟩

/-- How a run ended that nothing crashed: by the nodes that were visited, the context it left, and its
failure. -/
inductive EndsAt (e : Engine) (g : Graph) (visits : List Visit) (c : Context) : Option Failure → Prop
  /-- The last node has no successor. -/
  | success {v : Visit} (hlast : visits.getLast? = some v)
      (hend : v.node.successor c.decision = noNode) : EndsAt e g visits c none
  /-- The last node failed. -/
  | dispatch {f : Failure} {v : Visit} (hkind : f.kind = .dispatch) (hlast : visits.getLast? = some v)
      (hat : f.nodeId = v.place) : EndsAt e g visits c (some f)
  /-- There is no budget for the successor of the last node, which was not visited before either. -/
  | stepLimit {f : Failure} {v : Visit} (hkind : f.kind = .stepLimit)
      (hlast : visits.getLast? = some v) (hat : f.nodeId = v.node.successor c.decision)
      (hnew : f.nodeId ≠ noNode ∧ f.nodeId ∉ visits.map Visit.place) : EndsAt e g visits c (some f)
  /-- There is no budget at all. -/
  | noBudget {f : Failure} (hkind : f.kind = .stepLimit) (hnone : visits = []) (hzero : e.maxSteps = 0)
      (hat : f.nodeId = g.entry) : EndsAt e g visits c (some f)
  /-- The run was called off after the last node, or before the first one. -/
  | cancelled {f : Failure} (hkind : f.kind = .cancelled)
      (hat : e.visitor.LeavesCursor → f.nodeId = (visits.getLast?.map Visit.place).getD g.entry) :
      EndsAt e g visits c (some f)

section Placed

variable {b : Int} {c d : Context} {vs : List Visit} {left : Nat} {last : Walked}

/-- A walk passes no node that it comes to again. -/
theorem Passes.not_passed (h : Passes e g g.entry c vs b d) (hends : g.Ends g.entry) {n : Node}
    (hn : g.node? b = some n) : b ∉ vs.map Visit.place := by
  obtain ⟨t, ht⟩ := List.exists_mem_of_ne_nil n.targets (Graph.targets_ne_nil n)
  have htrail := h.trail.append (.cons hn ht .nil)
  have hnodup := htrail.nodup hends
  intro hmem
  exact (List.nodup_append.mp hnodup).2.2 b hmem b List.mem_cons_self rfl

/-- In a checked graph a walk from the entry rests at its end, or for one of three reasons, and its
failure tells of the node where it rests. -/
theorem Passes.endsAt (h : Passes e g g.entry c vs b d) (hrests : Rests e g look left b d last)
    (hp : g.Placed) (hends : g.Ends g.entry) (hcursor : c.cursor = g.entry) (hsteps : c.steps = 0)
    (hfuel : left + vs.length = e.maxSteps) {failure : Option Failure}
    (hfailure : last.stop.map (failureOf last.context) = failure.map some) :
    EndsAt e g (vs ++ last.visits) last.context failure := by
  have hvisited : vs ≠ [] → ∃ v, vs.getLast? = some v := fun hne =>
    ⟨vs.getLast hne, List.getLast?_eq_some_getLast hne⟩
  cases hrests with
  | ended hb =>
    obtain rfl : failure = none := by simpa using hfailure.symm
    have hne : vs ≠ [] := by
      rintro rfl
      -- Without a node there is no way from the entry to the end.
      obtain ⟨hentry, -⟩ := h.eq_of_nil
      exact Graph.not_within_noNode g.nodes (by rw [← hb, hentry]; exact hp.entry)
    obtain ⟨v, hlast⟩ := hvisited hne
    rw [List.append_nil]
    exact .success hlast ((h.last v hlast).1.trans hb)
  | calledOff hlook =>
    obtain ⟨f, rfl, hkind, hat⟩ := of_map_failureOf hfailure
    rw [List.append_nil]
    refine .cancelled hkind fun hv => hat.trans ?_
    change d.cursor = _
    by_cases hnil : vs = []
    · subst hnil
      rw [h.eq_of_nil.2, hcursor]
      rfl
    · obtain ⟨v, hlast⟩ := hvisited hnil
      rw [(h.last v hlast).2 hv, hlast]
      rfl
  | missing hne hb =>
    -- What a node leads to is a node, or the end.
    have hin := (h.trail.next_placed hp (.inr hp.entry)).resolve_left hne
    exact absurd hin ((Graph.slot?_isNone_iff g b).mp (by rw [hb]; rfl))
  | spent hn hspent =>
    obtain ⟨f, rfl, hkind, hat⟩ := of_map_failureOf hfailure
    have hb : f.nodeId = b := hat
    have hnode : b ≠ noNode := by
      rintro rfl
      rw [Graph.node?_noNode] at hn
      cases hn
    rw [List.append_nil]
    by_cases hnil : vs = []
    · subst hnil
      obtain ⟨hentry, rfl⟩ := h.eq_of_nil
      have hall : left = e.maxSteps := hfuel
      have hzero : e.maxSteps = 0 := by omega
      exact .noBudget hkind rfl hzero (hb.trans hentry)
    · obtain ⟨v, hlast⟩ := hvisited hnil
      refine .stepLimit hkind hlast (hb.trans (h.last v hlast).1.symm) ?_
      rw [hb]
      exact ⟨hnode, h.not_passed hends hn⟩
  | failed hn hvisit =>
    obtain ⟨f, rfl, hkind, hat⟩ := of_map_failureOf hfailure
    exact .dispatch hkind List.getLast?_concat hat

end Placed

/-- The visits of a whole walk from the entry: they follow the graph, and none is made twice. -/
theorem Passes.visits {c d : Context} {b : Int} {vs : List Visit} {left : Nat} {last : Walked}
    (h : Passes e g g.entry c vs b d) (hrests : Rests e g look left b d last) :
    (∃ t, g.Trail g.entry ((vs ++ last.visits).map Visit.place) t) ∧
      (∀ v ∈ vs ++ last.visits, g.node? v.place = some v.node) ∧
      (e.visitor.LeavesSteps →
        (vs ++ last.visits).map Visit.step = List.range' (c.steps + 1) (vs ++ last.visits).length ∧
        last.context.steps = c.steps + (vs ++ last.visits).length) := by
  cases hrests with
  | ended | calledOff | missing | spent =>
    rw [List.append_nil]
    refine ⟨⟨b, h.trail⟩, h.node, fun hv => ?_⟩
    obtain ⟨hcount, hrange⟩ := h.steps hv
    exact ⟨hrange, hcount⟩
  | @failed n d' err hn hvisit =>
    obtain ⟨t, ht⟩ := List.exists_mem_of_ne_nil n.targets (Graph.targets_ne_nil n)
    refine ⟨⟨t, ?_⟩, ?_, fun hv => ?_⟩
    · rw [List.map_append]
      exact h.trail.append (.cons hn ht .nil)
    · intro v hv
      rcases List.mem_append.mp hv with hv | hv
      · exact h.node v hv
      · rw [List.mem_singleton.mp hv]
        exact hn
    · obtain ⟨hcount, hrange⟩ := h.steps hv
      have hleaves := hv n (d.arrive b)
      rw [hvisit] at hleaves
      have hstep : d.steps + 1 = c.steps + 1 + vs.length := by omega
      have hsteps : d'.steps = d.steps + 1 := hleaves
      have hall : d'.steps = c.steps + (vs.length + 1) := by omega
      rw [List.map_append, List.length_append, hrange, List.map_singleton, List.length_singleton,
        List.range'_1_concat, hstep]
      exact ⟨rfl, hall⟩

/-- A run that nothing crashes tells its observers of its start, of the nodes it visits, and of its
end. -/
theorem execute_events {c : Context} (he : e.Quiet) (hg : c.graph = some g) {r : Result}
    {stop : Option WalkError} (h : (e.execute look c).outcome = .finished r stop) :
    (e.execute look c).events =
      if e.hook.isSome then
        .requestStart c.message.id c.programName :: ((e.walk look c).visits.map (visitEvent g c) ++
          [.requestComplete c.message.id c.programName r])
      else [] := by
  simp only [execute, he _, hg] at h ⊢
  split at h
  · cases h
  · cases h
    rfl

/-- A request to a program that passes its check, with a visitor and observers that do not crash.
Observers are told of its start, of the nodes it visits with the statement of each, and of its end, and
the tracer of the same nodes. These are a trail from the entry on which no node comes twice. They carry
the numbers from one on, and the result counts them, if the visitor leaves the counting to the walk. The
failure is about the node where they end, or about the one that would have been next. -/
theorem execute_observed (hkeeps : e.visitor.Keeps) (hcalm : e.visitor.Calm) (he : e.Quiet)
    (look : Interrupts) (m : Message) {p : Program} (hp : p.check = .ok ()) :
    ∃ g r stop visits, p.graph = some g ∧
      (let x := e.execute look (.start m (some p))
      x.outcome = .finished r stop ∧
        x.events = (if e.hook.isSome then
          .requestStart m.id p.name ::
            (visits.map (fun v => .nodeVisit m.id p.name v.place v.node.kind
                ((g.statement? v.node.parent).elim "" Statement.text) v.step) ++
              [.requestComplete m.id p.name r]) else []) ∧
        x.spans.filter SpanCall.isVisit = visits.map (fun v => .event "node"
          ["weft.node_id=" ++ toString v.place, "weft.node_kind=" ++ v.node.kind.name,
            "weft.step=" ++ toString v.step]) ∧
        (∃ b, g.Trail g.entry (visits.map Visit.place) b) ∧
        (visits.map Visit.place).Nodup ∧
        (∀ v ∈ visits, g.node? v.place = some v.node ∧ v.node.id = v.place ∧
          (g.statement? v.node.parent).isSome) ∧
        (e.visitor.LeavesSteps → visits.map Visit.step = List.range' 1 visits.length ∧
          r.steps = visits.length) ∧
        EndsAt e g visits x.context r.failure) := by
  obtain ⟨-, g, hg, hcheck⟩ := (Program.check_eq_ok_iff p).mp hp
  have hplaced := Graph.placed_of_check hcheck
  have hends := Graph.ends_of_check hcheck
  have hgraph : (Context.start m (some p)).graph = some g := hg
  have hcursor : (Context.start m (some p)).cursor = g.entry := by
    simp only [Context.start, Option.bind_some, hg]
  obtain ⟨vs, b, d, left, last, hpasses, hrests, hsum, hwalk⟩ :=
    walkFrom_passes he hcalm hplaced.slot?_ne_gap look e.maxSteps g.entry (.start m (some p))
  rw [← walk_start e look m hg] at hwalk
  have hgap : ∀ g', (Context.start m (some p)).graph = some g' → ∀ i, g'.slot? i ≠ some none := by
    intro g' hg'
    obtain rfl : g = g' := Option.some.inj (hgraph.symm.trans hg')
    exact hplaced.slot?_ne_gap
  obtain ⟨stop, hout⟩ := execute_finished hkeeps hgap look fun ev _ => he ev
  generalize hr : (e.execute look (.start m (some p))).result = r at hout
  obtain ⟨hcontext, hstop, failure, hresult, htold⟩ := failure_of_finished hout
  have hvisits : (e.walk look (.start m (some p))).visits = vs ++ last.visits := by rw [hwalk]
  have hleft : (e.walk look (.start m (some p))).context = last.context := by rw [hwalk]
  have hdispatched : e.dispatched look (.start m (some p)) = vs ++ last.visits := by
    rw [dispatched, he]
    exact hvisits
  obtain ⟨⟨t, htrail⟩, hnode, hsteps⟩ := hpasses.visits hrests
  have hplace : ∀ v ∈ vs ++ last.visits, v.node.id = v.place ∧
      (g.statement? v.node.parent).isSome := by
    intro v hv
    obtain ⟨k, hk, hn⟩ := hplaced.nodePlaced (hnode v hv)
    exact ⟨hn.id.trans hk.symm, (at?_isSome_iff _ _).mpr hn.parent⟩
  refine ⟨g, r, stop, vs ++ last.visits, hg, hout, ?_, ?_, ⟨t, htrail⟩, htrail.nodup hends, ?_, ?_, ?_⟩
  · have hevents := execute_events he hgraph hout
    rw [hvisits] at hevents
    -- A node carries its place as its id.
    have htold : (vs ++ last.visits).map (visitEvent g (.start m (some p))) = (vs ++ last.visits).map
        fun v => .nodeVisit m.id p.name v.place v.node.kind
          ((g.statement? v.node.parent).elim "" Statement.text) v.step := by
      refine List.map_congr_left fun v hv => ?_
      rw [visitEvent_eq, (hplace v hv).1]
      rfl
    rw [hevents, htold]
    rfl
  · rw [← hdispatched]
    exact execute_spans e look _
  · exact fun v hv => ⟨hnode v hv, hplace v hv⟩
  · intro hv
    obtain ⟨hrange, hcount⟩ := hsteps hv
    refine ⟨hrange, ?_⟩
    rw [hresult, hleft]
    change ((last.context.steps : Nat) : Int) = _
    rw [hcount]
    exact congrArg Nat.cast (Nat.zero_add _)
  · rw [hcontext, hleft, hresult]
    refine hpasses.endsAt hrests hplaced hends hcursor rfl hsum ?_
    rw [← hstop, hwalk] at htold
    exact htold

/-- Two nodes and a budget for one: three events, of which one is about the first node, one step, and a
failure about the second node, which was not visited. -/
theorem execute_observed_short :
    let g : Graph := ⟨[some (.assign 0 0 1), some (.reply 1 1 (-1))],
      [⟨0, .assign, "a", .lit .null, .empty, ⟨"", 0⟩⟩, ⟨1, .reply, "", .var "a", .empty, ⟨"", 1⟩⟩], 0⟩
    let p : Program := ⟨"short", "1", some g, none⟩
    let e : Engine := { hook := some fun _ => none, maxSteps := 1 }
    let x := e.execute .never (.start default (some p))
    e.visitor.Keeps ∧ e.visitor.Calm ∧ e.Quiet ∧ p.check = .ok () ∧
      ∃ r stop f, x.outcome = .finished r stop ∧ x.events = [.requestStart "" "short",
          .nodeVisit "" "short" 0 .assign "a := <nil>" 1, .requestComplete "" "short" r] ∧
        r.steps = 1 ∧ r.failure = some f ∧ f.kind = .stepLimit ∧ f.nodeId = 1 := by
  intro g p e x
  have hquiet : e.Quiet := fun _ => rfl
  have hcheck : p.check = .ok () := by decide
  have hlength : x.events.length = 3 := by decide +kernel
  have hended : x.outcome.error? = some (.stepLimit 1 1) := by decide +kernel
  refine ⟨Visitor.standard_keeps, Visitor.standard_calm, hquiet, hcheck, ?_⟩
  obtain ⟨g', r, stop, visits, hg, hout, hevents, -, ⟨b, htrail⟩, -, hnode, hsteps, hends⟩ :=
    execute_observed (e := e) Visitor.standard_keeps Visitor.standard_calm hquiet .never default hcheck
  cases hg
  -- Of the three events one is about a node.
  have hone : visits.length = 1 := by
    rw [hevents] at hlength
    simpa [e] using hlength
  obtain ⟨⟨place, n, step⟩, rfl⟩ := List.length_eq_one_iff.mp hone
  obtain ⟨hnumbers, hcount⟩ := hsteps Visitor.standard_leavesSteps
  -- The node that was visited is the entry.
  obtain rfl : place = 0 := htrail.head_eq
  have hfirst : g.node? 0 = some n := (hnode _ List.mem_cons_self).1
  obtain rfl : Node.assign 0 0 1 = n := Option.some.inj hfirst
  obtain rfl : step = 1 := (List.cons.inj hnumbers).1
  have hstop : stop = some (.stepLimit 1 1) := by
    have herror : (Outcome.finished r stop).error? = some (.stepLimit 1 1) := hout ▸ hended
    exact herror
  obtain ⟨hnone, -⟩ | ⟨err, f, herr, hfailed, hon⟩ := Execution.finished_cases hout
  · rw [hstop] at hnone
    cases hnone
  obtain rfl : err = .stepLimit 1 1 := Option.some.inj (herr.symm.trans hstop)
  have hkind : f.kind = .stepLimit := hon.kind_eq
  have htold : x.events = [.requestStart "" "short", .nodeVisit "" "short" 0 .assign "a := <nil>" 1,
      .requestComplete "" "short" r] := by
    have htext : (g.statement? 0).elim "" Statement.text = "a := <nil>" := by decide +kernel
    rw [hevents, ← htext]
    rfl
  refine ⟨r, stop, f, hout, htold, hcount, hfailed, hkind, ?_⟩
  rw [hfailed] at hends
  cases hends with
  | dispatch hother | cancelled hother =>
    rw [hkind] at hother
    cases hother
  | noBudget _ hnil => cases hnil
  | stepLimit _ hlast hat =>
    -- It goes on to the other node.
    cases hlast
    exact hat

end Engine
end Courier
