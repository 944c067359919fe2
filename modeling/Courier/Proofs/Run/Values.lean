import Courier.Proofs.Result.Carried
import Courier.Proofs.Run.Lookup
import Courier.Proofs.Run.Observed

/-! Where the values of a result come from.
Operators make truth values at most; everything else that a run binds or replies with is a literal of its
program or a part of the payload. So what holds of those holds of all values of the result. -/
namespace Courier

/-- A property of values that programs cannot lose: truth values have it, and fields of what has it. -/
structure Value.Inherited (Q : Value → Prop) : Prop where
  null : Q .null
  bool : ∀ b, Q (.bool b)
  field : ∀ {fs}, Q (.record fs) → ∀ f ∈ fs, Q f.2

namespace Value

theorem inherited_valid : Inherited Valid where
  null := .null
  bool := .bool
  field := fun h => by
    cases h with
    | record hs hfields => exact hfields

theorem inherited_hasDocument : Inherited HasDocument where
  null := ⟨.null, by rw [toJson]⟩
  bool := fun b => ⟨.bool b, by rw [toJson]⟩
  field := hasDocument_record_iff.mp

end Value

variable {Q : Value → Prop}

theorem Message.follow_inherits (hQ : Value.Inherited Q) {path : List String} {v w : Value} (hv : Q v)
    (h : follow v path = some w) : Q w := by
  induction path generalizing v with
  | nil =>
    rw [follow] at h
    exact Option.some.inj h ▸ hv
  | cons name path ih =>
    cases v with
    | record fs =>
      rw [follow] at h
      split at h
      · next u hu => exact ih (hQ.field hv _ (Keyed.mem_of_get? hu)) h
      · cases h
    | _ => cases h

/-- The literals that a graph binds or replies with as they are. -/
def Graph.Gives (g : Graph) (v : Value) : Prop := ∃ s ∈ g.statements, s.value.op = .lit v

/-- What has been bound and replied with so far. -/
structure Context.Consists (Q : Value → Prop) (c : Context) : Prop where
  bindings : ∀ b ∈ c.bindings, Q b.2
  sorted : Keyed.Sorted c.bindings
  reply : ∀ v, c.reply = some v → Q v

namespace Context.Consists

variable {c : Context}

theorem eval (hQ : Value.Inherited Q) (hc : c.Consists Q) (hpayload : Q (.record c.message.fields))
    {e : Expr} {v : Value} (hlit : ∀ w, e.op = .lit w → Q w) (h : e.eval c = .ok v) : Q v := by
  obtain ⟨op, args⟩ := e
  rw [Expr.eval] at h
  cases op with
  | lit w =>
    cases h
    exact hlit v rfl
  | var name =>
    simp only [Expr.applyOp] at h
    split at h
    · next w hw =>
      cases h
      exact hc.bindings _ (Keyed.mem_of_get? hw)
    · cases h
  | field path =>
    simp only [Expr.applyOp] at h
    split at h
    · next w hw =>
      cases h
      unfold Message.lookup at hw
      split_ifs at hw
      exact Message.follow_inherits hQ hpayload hw
    · cases h
  | eq =>
    simp only [Expr.applyOp] at h
    split at h
    · obtain ⟨a, -, h⟩ := Courier.bind_eq_ok h
      obtain ⟨b, -, h⟩ := Courier.bind_eq_ok h
      cases h
      exact hQ.bool _
    · cases h
  | not =>
    simp only [Expr.applyOp] at h
    split at h
    · obtain ⟨a, -, rfl⟩ := map_eq_ok h
      exact hQ.bool _
    · cases h
  | empty | unknown => cases h

theorem visit (hQ : Value.Inherited Q) (hc : c.Consists Q) (hpayload : Q (.record c.message.fields))
    {g : Graph} (hg : c.graph = some g) (hlit : ∀ v, g.Gives v → Q v) {n : Node} {d : Context}
    (h : Visitor.visit n c = .ok d) : d.Consists Q := by
  obtain ⟨s, hs, -⟩ := Courier.bind_eq_ok h
  obtain ⟨g', hg', hstatement⟩ := Visitor.statementOf_eq_ok hs
  obtain rfl : g = g' := Option.some.inj (hg.symm.trans hg')
  have hmem : s ∈ g.statements := by
    obtain ⟨i, -, hi⟩ := at?_eq_some hstatement
    exact List.mem_of_getElem? hi
  cases hk : n.kind with
  | assign =>
    rw [Visitor.visit_assign hs hk] at h
    obtain ⟨v, hv, h⟩ := Courier.bind_eq_ok h
    obtain ⟨assigned, rfl⟩ := Context.bind_eq_ok (mapError_eq_ok h)
    have hvalue : Q v := hc.eval hQ hpayload (fun w hw => hlit w ⟨s, hmem, hw⟩) (mapError_eq_ok hv)
    refine ⟨fun b hb => ?_, hc.sorted.insert _ _, hc.reply⟩
    rcases Keyed.mem_insert hb with rfl | hb
    · exact hvalue
    · exact hc.bindings b hb
  | reply =>
    rw [Visitor.visit_reply hs hk] at h
    obtain ⟨v, hv, h⟩ := Courier.bind_eq_ok h
    cases h
    have hvalue : Q v := hc.eval hQ hpayload (fun w hw => hlit w ⟨s, hmem, hw⟩) (mapError_eq_ok hv)
    exact ⟨hc.bindings, hc.sorted, fun w hw => Option.some.inj hw ▸ hvalue⟩
  | branch =>
    rw [Visitor.visit_branch hs hk] at h
    obtain ⟨v, -, h⟩ := Courier.bind_eq_ok h
    cases h
    exact ⟨hc.bindings, hc.sorted, hc.reply⟩

theorem standard (hQ : Value.Inherited Q) (hc : c.Consists Q) (hpayload : Q (.record c.message.fields))
    {g : Graph} (hg : c.graph = some g) (hlit : ∀ v, g.Gives v → Q v) (n : Node) :
    (Visitor.standard n c).1.Consists Q := by
  unfold Visitor.standard
  split
  · next d hd => exact hc.visit hQ hpayload hg hlit hd
  · exact hc

theorem start (Q : Value → Prop) (m : Message) (p : Option Program) :
    (Context.start m p).Consists Q :=
  ⟨nofun, List.Pairwise.nil, nofun⟩

end Context.Consists

/-- A result all of whose values have a property. -/
structure Result.Consists (Q : Value → Prop) (r : Result) : Prop where
  value : Q r.value
  sorted : Keyed.Sorted (r.bindings.getD [])
  bindings : ∀ b ∈ r.bindings.getD [], Q b.2

namespace Engine

variable {e : Engine} {m : Message} {p : Program} {g : Graph}

/-- A request leaves a context with what its walk keeps. -/
theorem execute_keeps (look : Interrupts) {P : Context → Prop} (hg : p.graph = some g)
    (hkeeps : e.Keeps g P) (hstart : P (.start m (some p))) :
    P (e.execute look (.start m (some p))).context := by
  rw [execute_context]
  split
  · exact hstart
  · rw [walk_start e look m hg]
    exact walkFrom_keeps hkeeps look _ _ hstart

/-- All values of a result have a property that the payload and the literals have. -/
theorem execute_consists (look : Interrupts) (hv : e.visitor = Visitor.standard)
    (hQ : Value.Inherited Q) (hg : p.graph = some g) (hlit : ∀ v, g.Gives v → Q v)
    (hpayload : Q (.record m.fields)) :
    (e.execute look (.start m (some p))).result.Consists Q := by
  have hkeeps : e.Keeps g fun d => d.request = (m, some p) ∧ d.Consists Q := by
    refine ⟨?_, fun _ _ _ hd => ⟨hd.1, hd.2.1, hd.2.2, hd.2.3⟩, fun _ hd => ⟨hd.1, hd.2.1, hd.2.2, hd.2.3⟩⟩
    rintro n d ⟨hrequest, hconsists⟩
    obtain ⟨hmessage, hprogram⟩ := Prod.mk.inj hrequest
    have hgraph : d.graph = some g := by rw [Context.graph, hprogram, Option.bind_some, hg]
    rw [hv]
    refine ⟨(Visitor.standard_keeps n d).trans hrequest, hconsists.standard hQ ?_ hgraph hlit n⟩
    rwa [hmessage]
  obtain ⟨-, hconsists⟩ := execute_keeps look hg hkeeps ⟨rfl, .start Q m (some p)⟩
  have hbindings := (Execution.wellFormed e look (.start m (some p))).bindings
  refine ⟨?_, by rw [hbindings]; exact hconsists.sorted, by rw [hbindings]; exact hconsists.bindings⟩
  cases hout : (e.execute look (.start m (some p))).outcome with
  | crashed panic =>
    rw [Execution.result, hout]
    exact hQ.null
  | finished r stop =>
    obtain ⟨hcontext, -, failure, rfl, -⟩ := failure_of_finished hout
    rw [Execution.result, hout]
    dsimp only [resultOf]
    rw [← hcontext]
    cases hreply : (e.execute look (.start m (some p))).context.reply with
    | none => exact hQ.null
    | some v => exact hconsists.reply v hreply

/-- A result names no node but those of the graph. -/
theorem execute_nodeId {look : Interrupts} (hv : e.visitor.LeavesCursor) (hg : p.graph = some g)
    (hp : g.Placed) {f : Failure} (hf : (e.execute look (.start m (some p))).result.failure = some f) :
    Within g.nodes f.nodeId := by
  have hkeeps : e.Keeps g fun d => Within g.nodes d.cursor :=
    ⟨fun n d hd => by rwa [hv n d], fun cur _ hcur _ => (at?_isSome_iff _ _).mp hcur, fun _ hd => hd⟩
  have hstart : Within g.nodes (Context.start m (some p)).cursor := by
    simp only [Context.start, Option.bind_some, hg]
    exact hp.entry
  have hcursor := execute_keeps look hg hkeeps hstart
  cases hout : (e.execute look (.start m (some p))).outcome with
  | crashed panic =>
    rw [Execution.result, hout] at hf
    obtain rfl := Option.some.inj hf
    exact hcursor
  | finished r stop =>
    rw [Execution.result, hout] at hf
    obtain ⟨hcontext, hstop, failure, rfl, htold⟩ := failure_of_finished hout
    obtain rfl : failure = some f := hf
    cases stop with
    | none => cases htold
    | some err =>
      obtain ⟨f', hf', -, hnode⟩ := of_map_failureOf htold
      obtain rfl := Option.some.inj hf'
      rw [hnode]
      rw [hcontext] at hcursor
      cases walk_stoppedOn hstop with
      | node hg' hn =>
        obtain rfl : g = _ := Option.some.inj (hg.symm.trans hg')
        exact Graph.within_of_node? hn
      | visitor | observer | gap | budget | calledOff | missing | noGraph => exact hcursor

theorem execute_untimed (e : Engine) (look : Interrupts) (c : Context) :
    (e.execute look c).result.completedAt = .zero ∧ (e.execute look c).result.duration = 0 := by
  cases hout : (e.execute look c).outcome with
  | crashed panic =>
    rw [Execution.result, hout]
    exact ⟨rfl, rfl⟩
  | finished r stop =>
    obtain ⟨-, -, failure, rfl, -⟩ := failure_of_finished hout
    rw [Execution.result, hout]
    exact ⟨rfl, rfl⟩

end Engine

/-- A program as it is registered: it passes its check, its graph is no larger than a list can be, and its
literals are values as they are made. -/
structure Program.Usable (p : Program) : Prop where
  check : p.check = .ok ()
  small : ∀ g, p.graph = some g → g.nodes.length < 2 ^ 63
  literals : ∀ g, p.graph = some g → ∀ v, g.Gives v → v.Valid

theorem Within.isInt64 {α : Type} {xs : List α} {i : Int} (h : Within xs i) (hsmall : xs.length < 2 ^ 63) :
    Json.IsInt64 i := by
  obtain ⟨hlow, hhigh⟩ := h
  constructor <;> omega

/-- The result of a run is as results are made. -/
theorem Engine.execute_valid {e : Engine} (hv : e.visitor = Visitor.standard) {p : Program} (hp : p.Usable)
    {m : Message} (hpayload : Value.Valid (.record m.fields)) (look : Interrupts) :
    (e.execute look (.start m (some p))).result.Valid := by
  obtain ⟨g, hg, -, -, hdepth, hlength, hsteps, -⟩ := e.execute_bounded look m hp.check
  have hplaced : g.Placed := by
    obtain ⟨-, g', hg', hcheck⟩ := (Program.check_eq_ok_iff p).mp hp.check
    obtain rfl : g = g' := Option.some.inj (hg.symm.trans hg')
    exact Graph.placed_of_check hcheck
  obtain ⟨hvalue, hsorted, hbindings⟩ :=
    execute_consists look hv Value.inherited_valid hg (hp.literals g hg) hpayload
  obtain ⟨htime, hduration⟩ := e.execute_untimed look (.start m (some p))
  refine ⟨hvalue, hsorted, hbindings, ?_, fun f hf => ?_, ?_, ?_⟩
  · rw [hsteps (hv ▸ Visitor.standard_leavesSteps)]
    have hsmall := hp.small g hg
    constructor <;> omega
  · exact (execute_nodeId (hv ▸ Visitor.standard_leavesCursor) hg hplaced hf).isInt64 (hp.small g hg)
  · rw [htime]
    decide
  · rw [hduration]
    exact ⟨by decide, by decide⟩

/-- A result has a document if all its values have one. -/
theorem Engine.execute_encode {e : Engine} {look : Interrupts} {c : Context}
    (h : (e.execute look c).result.Consists Value.HasDocument) :
    ∃ t, (e.execute look c).result.encode = .ok t := by
  obtain ⟨value, hvalue⟩ := h.value
  obtain ⟨bindings, hbindings⟩ := Value.jsonMembers_eq_ok_iff.mpr h.bindings
  have htime : Value.timeJson (e.execute look c).result.completedAt =
      .ok (.text (e.execute look c).result.completedAt.text) := by
    rw [(e.execute_untimed look c).1]
    rfl
  exact ⟨_, Result.encode_of_values hvalue hbindings htime⟩

end Courier
