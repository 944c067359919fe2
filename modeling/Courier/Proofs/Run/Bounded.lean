import Courier.Proofs.Graph.Depth
import Courier.Proofs.Program.Layout
import Courier.Proofs.Run.Request

/-! How far a walk can come, whatever its visitor and its observers do.
The nodes it dispatches are a trail through the graph. In a graph that passes its check no trail is
longer than the depth, so the depth bounds the nodes. A budget of that size is never used up by them: it
can only be by a visitor that counts more steps than the nodes that are dispatched. -/
namespace Courier

/-- A visitor that leaves it to the walk to count the nodes. -/
def Visitor.LeavesSteps (v : Visitor) : Prop := ∀ n c, (v n c).1.steps = c.steps

/-- A visitor that may count steps of its own, but takes none back. -/
def Visitor.CountsOn (v : Visitor) : Prop := ∀ n c, c.steps ≤ (v n c).1.steps

theorem Visitor.LeavesSteps.countsOn {v : Visitor} (h : v.LeavesSteps) : v.CountsOn :=
  fun n c => Nat.le_of_eq (h n c).symm

theorem Visitor.standard_leavesSteps : Visitor.standard.LeavesSteps := by
  intro n c
  unfold standard
  split
  · next d hd => exact (visit_frame hd).2.2
  · rfl

/-- A tracer is told of each node by an event, and of nothing else in that way. -/
def SpanCall.isVisit : SpanCall → Bool
  | .event .. => true
  | _ => false

/-- The walk dispatched the nodes of a trail from `cur` that goes on to `b`. If it stopped before its end
for want of a node or of budget, that was at `b`. -/
structure Walked.Along (g : Graph) (cur : Int) (w : Walked) (b : Int) : Prop where
  trail : g.Trail cur (w.visits.map Visit.place) b
  missing : ∀ id, w.stop = some (.nodeNotFound id) → b ≠ noNode ∧ g.slot? b = none
  exhausted : ∀ id limit, w.stop = some (.stepLimit id limit) → b ≠ noNode

namespace Walked.Along

variable {g : Graph} {cur : Int}

/-- A walk that ends at once. -/
theorem here {c : Context} {stop : Option WalkError}
    (hmissing : ∀ id, stop = some (.nodeNotFound id) → cur ≠ noNode ∧ g.slot? cur = none)
    (hlimit : ∀ id limit, stop = some (.stepLimit id limit) → cur ≠ noNode) :
    Along g cur ⟨c, [], stop⟩ cur where
  trail := .nil
  missing := hmissing
  exhausted := hlimit

/-- A walk that ends with its first node, whichever node would have been next. -/
theorem last {n : Node} (hn : g.node? cur = some n) {c : Context} {step : Nat}
    {stop : Option WalkError} (hmissing : ∀ id, stop ≠ some (.nodeNotFound id))
    (hlimit : ∀ id limit, stop ≠ some (.stepLimit id limit)) :
    ∃ b, Along g cur ⟨c, [⟨cur, n, step⟩], stop⟩ b := by
  obtain ⟨b, hb⟩ := List.exists_mem_of_ne_nil n.targets (Graph.targets_ne_nil n)
  refine ⟨b, .cons hn hb .nil, ?_, ?_⟩
  · exact fun id h => absurd h (hmissing id)
  · exact fun id limit h => absurd h (hlimit id limit)

/-- A walk that goes on after its first node. -/
theorem after {n : Node} (hn : g.node? cur = some n) {next b : Int} (hnext : next ∈ n.targets)
    {w : Walked} (h : Along g next w b) (step : Nat) : Along g cur (w.after ⟨cur, n, step⟩) b where
  trail := .cons hn hnext h.trail
  missing := h.missing
  exhausted := h.exhausted

end Walked.Along

theorem Node.successor_mem_targets (n : Node) (decision : Bool) :
    n.successor decision ∈ n.targets := by
  cases n with
  | assign | reply => simp [successor, targets]
  | branch id parent t e => cases decision <;> simp [successor, targets]

namespace Engine

variable {e : Engine} {g : Graph}

theorem walkFrom_along (e : Engine) (g : Graph) (look : Interrupts) (fuel : Nat) (cur : Int)
    (c : Context) : ∃ b, (e.walkFrom g look fuel cur c).Along g cur b := by
  fun_induction walkFrom e g look fuel cur c with
  | case1 | case2 => exact ⟨_, .here (by simp) (by simp)⟩
  | case3 _ _ _ hcur _ hs => exact ⟨_, .here (fun _ _ => ⟨hcur, hs⟩) (by simp)⟩
  | case4 _ _ _ hcur | case5 _ _ hcur => exact ⟨_, .here (by simp) fun _ _ _ => hcur⟩
  | case6 => exact ⟨_, .here (by simp) (by simp)⟩
  | case7 _ _ _ _ _ _ _ _ n _ _ _ hs | case9 _ _ _ _ _ _ _ _ n _ _ _ _ _ hs
  | case10 _ _ _ _ _ _ _ _ n _ _ _ _ _ hs =>
    exact Walked.Along.last (Graph.node?_eq_some_iff.mpr hs) (by simp) (by simp)
  | case8 _ _ _ _ _ _ _ _ n _ _ d _ hs ih =>
    obtain ⟨b, hb⟩ := ih
    have hn : g.node? _ = some n := Graph.node?_eq_some_iff.mpr hs
    exact ⟨b, hb.after hn (n.successor_mem_targets d.decision) _⟩

/-- Where there is no gap, a step is counted for each node that is dispatched and for none else. -/
theorem walkFrom_steps (hv : e.visitor.LeavesSteps) (hfull : ∀ i, g.slot? i ≠ some none)
    (look : Interrupts) (fuel : Nat) (cur : Int) (c : Context) :
    (e.walkFrom g look fuel cur c).context.steps =
      c.steps + (e.walkFrom g look fuel cur c).visits.length := by
  fun_induction walkFrom e g look fuel cur c with
  | case1 | case2 | case3 | case4 | case5 | case7 => rfl
  | case6 _ _ _ _ _ _ _ _ hs => exact absurd hs (hfull _)
  | case8 cur c _ _ _ _ fuel arrived n v _ d hd _ ih =>
    have hleaves := hv n arrived
    rw [hd] at hleaves
    have hsteps : d.steps = c.steps + 1 := hleaves
    change (walkFrom e g look fuel (n.successor d.decision) d).context.steps = c.steps +
      ((walkFrom e g look fuel (n.successor d.decision) d).visits.length + 1)
    omega
  | case9 _ _ _ _ _ _ _ arrived n _ _ _ _ hd | case10 _ _ _ _ _ _ _ arrived n _ _ _ _ hd =>
    have hleaves := hv n arrived
    rw [hd] at hleaves
    exact hleaves

/-- The step after a node that ran needs one less of the fuel, as the walk has counted the node. -/
theorem fuel_left (hv : e.visitor.CountsOn) {n : Node} {c d : Context} {cur : Int} {fuel : Nat}
    (hd : e.visitor n (c.arrive cur) = (d, .done)) (hfuel : e.maxSteps ≤ c.steps + (fuel + 1)) :
    e.maxSteps ≤ d.steps + fuel := by
  have hcounts := hv n (c.arrive cur)
  rw [hd] at hcounts
  have hsteps : c.steps + 1 ≤ d.steps := hcounts
  omega

/-- A walk with fuel enough that runs out of budget has counted as many steps as that. -/
theorem walkFrom_exhausted (hv : e.visitor.CountsOn) (look : Interrupts) (fuel : Nat) (cur : Int)
    (c : Context) (hfuel : e.maxSteps ≤ c.steps + fuel) {id : Int} {limit : Nat}
    (hstop : (e.walkFrom g look fuel cur c).stop = some (.stepLimit id limit)) :
    e.maxSteps ≤ (e.walkFrom g look fuel cur c).context.steps := by
  -- A node takes one of the fuel and counts one step at least, so the bound on the fuel is kept.
  fun_induction walkFrom e g look fuel cur c with
  | case1 | case2 | case3 | case6 | case7 | case9 | case10 => cases hstop
  | case4 _ _ _ _ _ _ _ _ hspent => exact hspent
  | case5 _ _ _ _ _ _ _ hleft => exact absurd hfuel hleft
  | case8 _ _ _ _ _ _ _ _ n _ _ d hd _ ih => exact ih (fuel_left hv hd hfuel) hstop

/-- A walk that does not run out of budget notices neither a larger one nor more fuel. One that has used
its budget up does not notice more fuel. -/
theorem walkFrom_extend (e : Engine) (g : Graph) (look : Interrupts) {limit : Nat}
    (hlimit : e.maxSteps ≤ limit) (extra fuel : Nat) (cur : Int) (c : Context)
    (h : ∀ id l, (e.walkFrom g look fuel cur c).stop = some (.stepLimit id l) →
      limit = e.maxSteps ∧ e.maxSteps ≤ (e.walkFrom g look fuel cur c).context.steps) :
    ({ e with maxSteps := limit } : Engine).walkFrom g look (fuel + extra) cur c =
      e.walkFrom g look fuel cur c := by
  have htells (ev : Event) : ({ e with maxSteps := limit } : Engine).tell ev = e.tell ev := rfl
  have hmore (fuel : Nat) : fuel.succ + extra = (fuel + extra) + 1 := by omega
  have hstill {steps : Nat} (hleft : ¬ e.maxSteps ≤ steps) : ¬ limit ≤ steps := by omega
  fun_induction walkFrom e g look fuel cur c with
  | case1 => exact walkFrom_noNode _ g look _ _
  | case2 _ _ _ hcur i hlook => simp only [walkFrom, hcur, ↓reduceIte, hlook]
  | case3 _ _ _ hcur hlook hs => simp only [walkFrom, hcur, ↓reduceIte, hlook, hs]
  | case4 _ _ _ hcur hlook _ hs _ hspent =>
    obtain ⟨rfl, -⟩ := h _ _ rfl
    rw [walkFrom]
    simp only [hcur, ↓reduceIte, hlook, hs]
    exact if_pos hspent
  | case5 _ _ _ _ _ _ _ hleft =>
    -- the budget is not used up, but the fuel is
    exact absurd (h _ _ rfl).2 hleft
  | case6 _ _ hcur hlook _ hleft _ _ hs =>
    rw [hmore, walkFrom]
    simp only [hcur, ↓reduceIte, hlook, hs]
    exact if_neg (hstill hleft)
  | case7 _ _ hcur hlook _ hleft _ _ _ _ _ htell hs =>
    rw [hmore, walkFrom]
    simp only [hcur, ↓reduceIte, hlook, hs, htells]
    rw [if_neg (hstill hleft), htell]
  | case8 _ _ hcur hlook _ hleft _ _ n v htell d hd hs ih =>
    rw [hmore, walkFrom]
    simp only [hcur, ↓reduceIte, hlook, hs, htells]
    rw [if_neg (hstill hleft), htell, hd]
    exact congrArg (Walked.after v) (ih h)
  | case9 _ _ hcur hlook _ hleft _ _ _ _ htell _ _ hd hs
  | case10 _ _ hcur hlook _ hleft _ _ _ _ htell _ _ hd hs =>
    rw [hmore, walkFrom]
    simp only [hcur, ↓reduceIte, hlook, hs, htells]
    rw [if_neg (hstill hleft), htell, hd]

/-- More fuel than there are steps left changes nothing. -/
theorem walkFrom_fuel (hv : e.visitor.CountsOn) (look : Interrupts) (extra fuel : Nat) (cur : Int)
    (c : Context) (hfuel : e.maxSteps ≤ c.steps + fuel) :
    e.walkFrom g look (fuel + extra) cur c = e.walkFrom g look fuel cur c :=
  walkFrom_extend e g look (Nat.le_refl _) extra fuel cur c fun _ _ hstop =>
    ⟨rfl, walkFrom_exhausted hv look fuel cur c hfuel hstop⟩

/-- The nodes that a request dispatched, in order. It dispatches none if an observer crashes at the
start. -/
def dispatched (e : Engine) (look : Interrupts) (c : Context) : List Visit :=
  match e.tell (.requestStart c.message.id c.programName) with
  | some _ => []
  | none => (e.walk look c).visits

theorem filter_visitSpan (vs : List Visit) :
    (vs.map visitSpan).filter SpanCall.isVisit = vs.map visitSpan := by
  refine List.filter_eq_self.mpr fun s hs => ?_
  obtain ⟨v, -, rfl⟩ := List.mem_map.mp hs
  rfl

theorem filter_endSpans (c : Context) (failure : Option Failure) :
    (endSpans c failure).filter SpanCall.isVisit = [] := by
  cases failure <;> rfl

/-- A request tells its tracer of the nodes it dispatched, one by one. -/
theorem execute_spans (e : Engine) (look : Interrupts) (c : Context) :
    (e.execute look c).spans.filter SpanCall.isVisit = (e.dispatched look c).map visitSpan := by
  cases hstart : e.tell (.requestStart c.message.id c.programName) with
  | some t =>
    simp only [execute, dispatched, hstart]
    rfl
  | none =>
    simp only [execute, dispatched, hstart]
    split <;> simp only [List.cons_append, startSpan, List.filter_cons, SpanCall.isVisit,
      Bool.false_eq_true, ↓reduceIte, List.filter_append, filter_visitSpan, filter_endSpans,
      List.filter_nil, List.append_nil]

/-- A request leaves the context as its walk leaves it, if it comes to its walk. -/
theorem execute_context (e : Engine) (look : Interrupts) (c : Context) :
    (e.execute look c).context = match e.tell (.requestStart c.message.id c.programName) with
      | some _ => c
      | none => (e.walk look c).context := by
  cases hstart : e.tell (.requestStart c.message.id c.programName) with
  | some t => simp only [execute, hstart]
  | none =>
    simp only [execute, hstart]
    split <;> rfl

/-- A fresh request walks from the entry of its graph with fuel for all of the budget. -/
theorem walk_start (e : Engine) (look : Interrupts) (m : Message) {p : Program}
    (hg : p.graph = some g) : e.walk look (.start m (some p)) =
      e.walkFrom g look e.maxSteps g.entry (.start m (some p)) := by
  have hgraph : (Context.start m (some p)).graph = some g := hg
  have hcursor : (Context.start m (some p)).cursor = g.entry := by
    simp only [Context.start, Option.bind_some, hg]
  rw [walk, hgraph, ← hcursor]
  rfl

/-- A fresh request to a graph without gaps has counted the nodes it dispatched. -/
theorem execute_steps (hv : e.visitor.LeavesSteps) (hp : g.Placed) (look : Interrupts) (m : Message)
    {p : Program} (hg : p.graph = some g) :
    (e.execute look (.start m (some p))).context.steps =
      (e.dispatched look (.start m (some p))).length := by
  rw [execute_context, dispatched]
  split
  · rfl
  · rw [walk_start e look m hg, walkFrom_steps hv hp.slot?_ne_gap]
    exact Nat.zero_add _

/-- The result of a request counts the steps that its context counts. -/
theorem result_steps (e : Engine) (look : Interrupts) (c : Context) :
    (e.execute look c).result.steps = (e.execute look c).context.steps := by
  cases hout : (e.execute look c).outcome with
  | crashed t =>
    rw [Execution.result, hout]
    rfl
  | finished r stop =>
    obtain ⟨hstart, ⟨failure, hr⟩, -⟩ := of_execute_finished hout
    rw [Execution.result, hout, execute_context, hstart, hr]
    rfl

/-- A request that runs out of budget has counted as many steps. -/
theorem walk_exhausted (hv : e.visitor.CountsOn) {look : Interrupts} {c : Context} {id : Int}
    {limit : Nat} (hstop : (e.walk look c).stop = some (.stepLimit id limit)) :
    e.maxSteps ≤ (e.walk look c).context.steps := by
  unfold walk at hstop ⊢
  split at hstop
  · cases hstop
  · exact walkFrom_exhausted hv look _ _ c (by omega) hstop

/-- A request to a program that passes its check dispatches no node twice and no more nodes than the
graph is deep, which is at most as many as it has. It comes to no node that is missing. All this holds
whatever the visitor does with a node, whatever the observers do, and whenever the request is called off.
The request runs out of budget only when its steps have used that up, and so, if the visitor leaves the
counting to the walk, only with a budget less than the depth. -/
theorem execute_bounded (e : Engine) (look : Interrupts) (m : Message) {p : Program}
    (hp : p.check = .ok ()) : ∃ g, p.graph = some g ∧
      (let x := e.execute look (.start m (some p))
      let visits := e.dispatched look (.start m (some p))
      x.spans.filter SpanCall.isVisit = visits.map visitSpan ∧
        (visits.map Visit.place).Nodup ∧
        visits.length ≤ g.depth ∧ g.depth ≤ g.nodes.length ∧
        (e.visitor.LeavesSteps → x.result.steps = visits.length) ∧
        ∀ r err, x.outcome = .finished r (some err) → (∀ id, err ≠ .nodeNotFound id) ∧
          (e.visitor.CountsOn → ∀ id limit, err = .stepLimit id limit → e.maxSteps ≤ r.steps) ∧
          (e.visitor.LeavesSteps → g.depth ≤ e.maxSteps → ∀ id limit, err ≠ .stepLimit id limit)) := by
  obtain ⟨-, g, hg, hcheck⟩ := (Program.check_eq_ok_iff p).mp hp
  have hplaced := Graph.placed_of_check hcheck
  have hends := Graph.ends_of_check hcheck
  obtain ⟨b, halong⟩ := walkFrom_along e g look e.maxSteps g.entry (.start m (some p))
  rw [← walk_start e look m hg] at halong
  obtain ⟨hle, hlt⟩ := halong.trail.length_le_depth hplaced hends
  rw [List.length_map] at hle hlt
  refine ⟨g, hg, execute_spans e look _, ?_, ?_, Graph.depth_le_length hplaced hends, ?_, ?_⟩
  · unfold dispatched
    split
    · exact List.nodup_nil
    · exact halong.trail.nodup hends
  · unfold dispatched
    split
    · exact Nat.zero_le _
    · exact hle
  · intro hv
    rw [result_steps, execute_steps hv hplaced look m hg]
  · intro r err hout
    obtain ⟨-, ⟨failure, hr⟩, hstop, -⟩ := of_execute_finished hout
    refine ⟨?_, ?_, ?_⟩
    · rintro id rfl
      obtain ⟨hne, hmissing⟩ := halong.missing id hstop
      -- The trail leads to a node of the graph, so there is one.
      have hin := (halong.trail.next_placed hplaced (.inr hplaced.entry)).resolve_left hne
      exact (Graph.slot?_isNone_iff g b).mp (by rw [hmissing]; rfl) hin
    · rintro hv id limit rfl
      have hused := walk_exhausted hv hstop
      rw [hr]
      exact Int.ofNat_le.mpr hused
    · rintro hv hbudget id limit rfl
      have hused := walk_exhausted hv.countsOn hstop
      rw [walk_start e look m hg, walkFrom_steps hv hplaced.slot?_ne_gap] at hused
      rw [walk_start e look m hg] at hlt hstop halong
      -- The trail has used the budget up and goes on, so it is shorter than the depth.
      have hshort := hlt (halong.exhausted id limit hstop)
      have hzero : (Context.start m (some p)).steps = 0 := rfl
      omega

/-- Two branches that meet again: of the four nodes a request takes no more than three, so that a
budget of three is enough. -/
theorem execute_bounded_join :
    let g : Graph := ⟨[some (.branch 0 0 1 2), some (.assign 1 1 3), some (.assign 2 2 3),
      some (.reply 3 3 (-1))], [⟨0, .cond, "", .empty, .field "sender", ⟨"", 0⟩⟩,
      ⟨1, .assign, "a", .lit .null, .empty, ⟨"", 1⟩⟩,
      ⟨2, .assign, "a", .field "id", .empty, ⟨"", 2⟩⟩,
      ⟨3, .reply, "", .var "a", .empty, ⟨"", 3⟩⟩], 0⟩
    let p : Program := ⟨"join", "1", some g, none⟩
    let x := ({ maxSteps := 3 } : Engine).execute .never (.start default (some p))
    p.check = .ok () ∧ g.depth = 3 ∧ x.result.steps ≤ 3 ∧
      ∀ r err, x.outcome = .finished r (some err) → ∀ id limit, err ≠ .stepLimit id limit := by
  intro g p x
  have hcheck : p.check = .ok () := by decide
  have hdepth : g.depth = 3 := by decide
  obtain ⟨g', hg, -, -, hlength, -, hsteps, hstop⟩ :=
    execute_bounded { maxSteps := 3 } .never default hcheck
  cases hg
  have hwithin := fun r err hout =>
    (hstop r err hout).2.2 Visitor.standard_leavesSteps (Nat.le_of_eq hdepth)
  refine ⟨hcheck, hdepth, ?_, hwithin⟩
  calc x.result.steps
      = _ := hsteps Visitor.standard_leavesSteps
    _ ≤ (g.depth : Int) := Int.ofNat_le.mpr hlength
    _ = 3 := by rw [hdepth]; rfl

end Engine
end Courier
