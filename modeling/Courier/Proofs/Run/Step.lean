import Courier.Proofs.Fallible
import Courier.Proofs.Graph.Cycle
import Courier.Run.Execute

/-! One step of a walk, and how a request ends by its walk.
An ordinary engine runs nodes with the standard visitor and has no observer that crashes. -/
namespace Courier

/-- No call to an observer crashes. -/
def Engine.Quiet (e : Engine) : Prop := ∀ ev, e.tell ev = none

/-- The standard visitor, observed without crashes. -/
structure Engine.Ordinary (e : Engine) : Prop where
  visitor : e.visitor = Visitor.standard
  quiet : e.Quiet

/-- A request that is never called off. -/
def Interrupts.never : Interrupts := fun _ => none

/-- The context on arrival at a node that is counted. -/
def Context.arrive (c : Context) (cur : Int) : Context :=
  { c with cursor := cur, steps := c.steps + 1 }

/-- Where a walk ended and why, without the way there. -/
def Walked.ending (w : Walked) : Context × Option WalkError := (w.context, w.stop)

@[simp] theorem Walked.ending_after (v : Visit) (w : Walked) : (w.after v).ending = w.ending := rfl

theorem Context.bind_eq_ok {c c' : Context} {name : String} {v : Value}
    (h : c.bind name v = .ok c') : ∃ assigned,
      c' = { c with bindings := Keyed.insert name v c.bindings, assigned := assigned } := by
  unfold Context.bind at h
  split at h
  · cases h
  · exact ⟨_, (Except.ok.inj h).symm⟩

namespace Visitor

section ByKind

variable {n : Node} {c : Context} {s : Statement}

theorem visit_assign (hs : statementOf c n = .ok s) (hk : n.kind = .assign) :
    visit n c = ((s.value.eval c).mapError (.assign s.target) >>= fun v =>
      (c.bind s.target v).mapError .target) := by
  unfold visit
  rw [hs, hk]
  rfl

theorem visit_reply (hs : statementOf c n = .ok s) (hk : n.kind = .reply) :
    visit n c = ((s.value.eval c).mapError .reply >>= fun v =>
      .ok { c with reply := some v }) := by
  unfold visit
  rw [hs, hk]
  rfl

theorem visit_branch (hs : statementOf c n = .ok s) (hk : n.kind = .branch) :
    visit n c = ((s.cond.eval c).mapError .condition >>= fun v =>
      .ok { c with decision := v.truthy }) := by
  unfold visit
  rw [hs, hk]
  rfl

end ByKind

/-- A node that runs changes neither the request nor the number of steps. -/
theorem visit_frame {n : Node} {c c' : Context} (h : visit n c = .ok c') :
    c'.message = c.message ∧ c'.program = c.program ∧ c'.steps = c.steps := by
  obtain ⟨s, hs, -⟩ := bind_eq_ok h
  cases hk : n.kind with
  | assign =>
    rw [visit_assign hs hk] at h
    obtain ⟨v, -, h⟩ := bind_eq_ok h
    obtain ⟨assigned, rfl⟩ := Context.bind_eq_ok (mapError_eq_ok h)
    exact ⟨rfl, rfl, rfl⟩
  | reply =>
    rw [visit_reply hs hk] at h
    obtain ⟨v, -, h⟩ := bind_eq_ok h
    cases h
    exact ⟨rfl, rfl, rfl⟩
  | branch =>
    rw [visit_branch hs hk] at h
    obtain ⟨v, -, h⟩ := bind_eq_ok h
    cases h
    exact ⟨rfl, rfl, rfl⟩

theorem standard_of_ok {n : Node} {c d : Context} (h : visit n c = .ok d) :
    standard n c = (d, .done) := by
  rw [standard, h]

theorem standard_of_error {n : Node} {c : Context} {err : VisitError} (h : visit n c = .error err) :
    standard n c = (c, .failed err) := by
  rw [standard, h]

end Visitor

namespace Engine

/-- What observers are told about a visit, field by field. -/
theorem visitEvent_eq (g : Graph) (c : Context) (v : Visit) :
    visitEvent g c v = .nodeVisit c.message.id c.programName v.node.id v.node.kind
      ((g.statement? v.node.parent).elim "" Statement.text) v.step := by
  rw [visitEvent, Graph.statementText?]
  cases g.statement? v.node.parent <;> rfl

theorem walkFrom_noNode (e : Engine) (g : Graph) (look : Interrupts) (fuel : Nat) (c : Context) :
    e.walkFrom g look fuel noNode c = ⟨c, [], none⟩ := by
  rw [walkFrom]
  rfl

/-- One step of an ordinary walk at a node that is there: called off, out of budget, or run. -/
theorem walkFrom_ending_step {e : Engine} (he : e.Ordinary) {g : Graph} {cur : Int} {n : Node}
    (hn : g.node? cur = some n) (look : Interrupts) (c : Context) :
    (e.walkFrom g look (e.maxSteps - c.steps) cur c).ending =
      match look c.steps with
      | some i => (c, some (.interrupted i))
      | none =>
        if c.steps < e.maxSteps then
          match Visitor.visit n (c.arrive cur) with
          | .ok d => (e.walkFrom g look (e.maxSteps - d.steps) (n.successor d.decision) d).ending
          | .error err => (c.arrive cur, some (.dispatch cur n.kind n.parent err))
        else ({ c with cursor := cur }, some (.stepLimit cur e.maxSteps)) := by
  -- There is a node, so the walk is neither over nor at a gap.
  have hcur : cur ≠ noNode := by
    rintro rfl
    exact Graph.not_within_noNode _ (Graph.within_of_node? hn)
  have hslot : g.slot? cur = some (some n) := Graph.node?_eq_some_iff.mp hn
  rw [walkFrom]
  simp only [hcur, ↓reduceIte, hslot]
  cases hlook : look c.steps with
  | some i => rfl
  | none =>
    by_cases hlt : c.steps < e.maxSteps
    · obtain ⟨b, hb⟩ : ∃ b, e.maxSteps - c.steps = b + 1 := ⟨e.maxSteps - c.steps - 1, by omega⟩
      have hle : ¬ e.maxSteps ≤ c.steps := Nat.not_le.mpr hlt
      cases hvisit : Visitor.visit n (c.arrive cur) with
      | error err =>
        have hrun : e.visitor n (c.arrive cur) = (c.arrive cur, .failed err) := by
          rw [he.visitor]
          exact Visitor.standard_of_error hvisit
        unfold Context.arrive at hrun
        simp only [hb, hle, hlt, ↓reduceIte, he.quiet _, hrun]
        rfl
      | ok d =>
        have hrun : e.visitor n (c.arrive cur) = (d, .done) := by
          rw [he.visitor]
          exact Visitor.standard_of_ok hvisit
        -- The visit left the count alone, so what is left of the budget is one less.
        have hsteps : d.steps = c.steps + 1 := (Visitor.visit_frame hvisit).2.2
        have hbudget : e.maxSteps - d.steps = b := by omega
        unfold Context.arrive at hrun
        simp only [hb, hle, hlt, ↓reduceIte, he.quiet _, hrun, Walked.ending_after, hbudget]
    · have hle : e.maxSteps ≤ c.steps := Nat.not_lt.mp hlt
      simp only [hle, hlt, ↓reduceIte]
      rfl

/-- Where there is no gap, every failure can be told. -/
theorem failureOf_isSome {c : Context}
    (hgap : ∀ g, c.graph = some g → ∀ i, g.slot? i ≠ some none) (err : WalkError) :
    (failureOf c err).isSome = true := by
  cases hg : c.graph with
  | none => simp only [failureOf, hg, Option.isSome_some]
  | some g =>
    -- The failure is told of a node if there is one at its place, and without one otherwise.
    cases hs : g.slot? (failureNode c err) with
    | none => simp only [failureOf, hg, hs, Option.isSome_some]
    | some slot =>
      cases slot with
      | none => exact absurd hs (hgap g hg _)
      | some n => simp only [failureOf, hg, hs, Option.isSome_some]

/-- A request that nothing crashes ends where its walk ends, with the failure that stopped it. -/
theorem execute_of_quiet {e : Engine} (he : e.Quiet) (look : Interrupts) (c : Context)
    (hfail : ∀ err, (e.walk look c).stop = some err →
      (failureOf (e.walk look c).context err).isSome = true) :
    (e.execute look c).context = (e.walk look c).context ∧
      (e.execute look c).outcome = .finished
        (resultOf (e.walk look c).context
          ((e.walk look c).stop.bind (failureOf (e.walk look c).context)))
        (e.walk look c).stop := by
  simp only [execute, he _]
  cases hstop : (e.walk look c).stop with
  | none => exact ⟨rfl, rfl⟩
  | some err =>
    obtain ⟨f, hf⟩ := Option.isSome_iff_exists.mp (hfail err hstop)
    simp only [Option.map_some, hf, Option.bind_some, Option.join_some, and_self]

end Engine
end Courier
