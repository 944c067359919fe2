import Courier.Proofs.Run.Bounded

/-! How runs end, whatever program and context they are given and whatever visitor and observers do.
A walk that stops early says why, and it says so truthfully. What cannot be told of a walk, or is lost in a
crash of an observer, is made up for by a result of its own. So there is one result, and it is handed on
once. -/
namespace Courier

namespace Engine

variable {e : Engine} {g : Graph} {look : Interrupts}

/-- Why a walk that began with the context `c` stopped early and left the context `d`, and which kind of
failure that is. -/
inductive StoppedOn (e : Engine) (look : Interrupts) (c d : Context) : WalkError → FailureKind → Prop
  /-- A node failed. -/
  | node {g : Graph} {id : Int} {n : Node} {arrived : Context} {err : VisitError} (hg : c.graph = some g)
      (hn : g.node? id = some n) (hvisit : e.visitor n arrived = (d, .failed err)) :
      StoppedOn e look c d (.dispatch id n.kind n.parent err) .dispatch
  /-- What runs the nodes crashed. -/
  | visitor {g : Graph} {id : Int} {n : Node} {arrived : Context} {t : String} (hg : c.graph = some g)
      (hn : g.node? id = some n) (hvisit : e.visitor n arrived = (d, .panicked t)) :
      StoppedOn e look c d (.panicked d.cursor (.raised t)) .panic
  /-- An observer crashed when it was told of a node. -/
  | observer {g : Graph} {n : Node} {t : String} (hg : c.graph = some g) (hn : g.node? d.cursor = some n)
      (htell : e.tell (.nodeVisit d.message.id d.programName n.id n.kind
        ((g.statement? n.parent).elim "" Statement.text) d.steps) = some t) :
      StoppedOn e look c d (.panicked d.cursor (.raised t)) .panic
  /-- In the place of a node there was a gap. -/
  | gap {g : Graph} (hg : c.graph = some g) (hgap : g.slot? d.cursor = some none) :
      StoppedOn e look c d (.panicked d.cursor .gap) .panic
  /-- There were more nodes than the budget allows. -/
  | budget {g : Graph} (hg : c.graph = some g) (hmore : (g.slot? d.cursor).isSome)
      (hspent : e.visitor.CountsOn → e.maxSteps ≤ d.steps) :
      StoppedOn e look c d (.stepLimit d.cursor e.maxSteps) .stepLimit
  /-- The run was called off. -/
  | calledOff {by_ : Interruption} (hlook : look d.steps = some by_) :
      StoppedOn e look c d (.interrupted by_) .cancelled
  /-- There was no node where one should have been. -/
  | missing {g : Graph} {id : Int} (hg : c.graph = some g) (hid : id ≠ noNode) (hnone : g.slot? id = none) :
      StoppedOn e look c d (.nodeNotFound id) .graph
  /-- There was no graph. -/
  | noGraph (hg : c.graph = none) : StoppedOn e look c d .noGraph .graph

theorem StoppedOn.kind_eq {c d : Context} {err : WalkError} {kind : FailureKind}
    (h : e.StoppedOn look c d err kind) : kind = err.kind := by
  cases h <;> rfl

/-- A walk with fuel for all the steps that are left. -/
theorem walkFrom_stoppedOn {start : Context} (hg : start.graph = some g) (fuel : Nat) (cur : Int)
    (c : Context) (hfuel : e.visitor.CountsOn → e.maxSteps ≤ c.steps + fuel) {err : WalkError}
    (hstop : (e.walkFrom g look fuel cur c).stop = some err) :
    e.StoppedOn look start (e.walkFrom g look fuel cur c).context err err.kind := by
  fun_induction walkFrom e g look fuel cur c with
  | case1 => cases hstop
  | case2 _ _ _ _ _ hlook =>
    cases hstop
    exact .calledOff hlook
  | case3 _ _ _ hcur _ hslot =>
    cases hstop
    exact .missing hg hcur hslot
  | case4 _ _ _ _ _ _ hslot arrived hspent =>
    cases hstop
    exact .budget hg (d := arrived) (Option.isSome_of_eq_some hslot) fun _ => hspent
  | case5 _ _ _ _ _ hslot arrived =>
    cases hstop
    exact .budget hg (d := arrived) (Option.isSome_of_eq_some hslot) hfuel
  | case6 _ _ _ _ _ _ _ arrived hslot =>
    cases hstop
    exact .gap hg (d := arrived) hslot
  | case7 _ _ _ _ _ _ _ arrived _ _ _ htell hslot =>
    cases hstop
    rw [visitEvent_eq] at htell
    exact .observer hg (d := arrived) (Graph.node?_eq_some_iff.mpr hslot) htell
  | case8 _ _ _ _ _ _ _ _ _ _ _ _ hd _ ih =>
    exact ih (fun hv => fuel_left hv hd (hfuel hv)) hstop
  | case9 _ _ _ _ _ _ _ _ _ _ _ _ _ hd hslot =>
    cases hstop
    exact .node hg (Graph.node?_eq_some_iff.mpr hslot) hd
  | case10 _ _ _ _ _ _ _ _ _ _ _ _ _ hd hslot =>
    cases hstop
    exact .visitor hg (Graph.node?_eq_some_iff.mpr hslot) hd

theorem walk_stoppedOn {c : Context} {err : WalkError} (hstop : (e.walk look c).stop = some err) :
    e.StoppedOn look c (e.walk look c).context err err.kind := by
  cases hg : c.graph with
  | none =>
    have hwalk : e.walk look c = ⟨c, [], some .noGraph⟩ := by rw [walk, hg]
    rw [hwalk] at hstop ⊢
    cases hstop
    exact .noGraph hg
  | some g =>
    have hwalk : e.walk look c = e.walkFrom g look (e.maxSteps - c.steps) c.cursor c := by rw [walk, hg]
    rw [hwalk] at hstop ⊢
    exact walkFrom_stoppedOn hg _ _ c (fun _ => by omega) hstop

/-- A failure that can be told is of the kind of the error. -/
theorem failureOf_kind {c : Context} {err : WalkError} {f : Failure} (h : failureOf c err = some f) :
    f.kind = err.kind := by
  unfold failureOf at h
  dsimp only at h
  split at h
  · cases h
    rfl
  · split at h
    · cases h
      rfl
    · cases h
    · cases h
      rfl

/-- A run that ended in a result has told of the failure of its walk, if there was one. -/
theorem failure_of_finished {c : Context} {r : Result} {stop : Option WalkError}
    (h : (e.execute look c).outcome = .finished r stop) :
    (e.execute look c).context = (e.walk look c).context ∧ (e.walk look c).stop = stop ∧
      ∃ failure : Option Failure, r = resultOf (e.walk look c).context failure ∧
        stop.map (failureOf (e.walk look c).context) = failure.map some := by
  obtain ⟨hstart, -, hstop, -⟩ := of_execute_finished h
  have hcontext := execute_context e look c
  rw [hstart] at hcontext
  refine ⟨hcontext, hstop, ?_⟩
  subst hstop
  simp only [execute, hstart] at h
  split at h
  · cases h
  · next ended hended =>
    dsimp only at h
    split at h
    · cases h
    · cases h
      refine ⟨_, rfl, ?_⟩
      cases hmap : (e.walk look c).stop.map (failureOf (e.walk look c).context) with
      | none => rfl
      | some told =>
        cases told with
        | none => exact absurd hmap hended
        | some f => rfl

end Engine

namespace Execution

variable {e : Engine} {look : Interrupts} {c : Context}

/-- However a run ended, its result is about the context that it left, and it has a failure unless it is
a success. -/
structure WellFormed (x : Execution) (r : Result) : Prop where
  messageId : r.messageId = x.context.message.id
  program : r.program = x.context.programName
  steps : r.steps = x.context.steps
  bindings : r.bindings = some x.context.bindings
  status : r.status = if r.failure.isSome then .failure else .success

theorem wellFormed (e : Engine) (look : Interrupts) (c : Context) :
    (e.execute look c).WellFormed (e.execute look c).result := by
  cases hout : (e.execute look c).outcome with
  | crashed p =>
    rw [result, hout]
    exact ⟨rfl, rfl, rfl, rfl, rfl⟩
  | finished r stop =>
    obtain ⟨hcontext, -, failure, hr, -⟩ := Engine.failure_of_finished hout
    rw [result, hout]
    dsimp only
    subst hr
    constructor
    all_goals
      first
      | rw [hcontext]
        rfl
      | rfl

theorem WellFormed.success_iff {x : Execution} {r : Result} (h : x.WellFormed r) :
    r.status = .success ↔ r.failure = none := by
  rw [h.status]
  cases r.failure with
  | none => exact iff_of_true rfl rfl
  | some f => exact iff_of_false nofun nofun

/-- A run that ends in a result ends in success exactly if its walk did not stop early. If it did, the
failure is of the kind of what it stopped on. -/
theorem finished_cases {r : Result} {stop : Option WalkError}
    (h : (e.execute look c).outcome = .finished r stop) :
    (stop = none ∧ r.failure = none) ∨
      ∃ err f, stop = some err ∧ r.failure = some f ∧
        e.StoppedOn look c (e.execute look c).context err f.kind := by
  obtain ⟨hcontext, hstop, failure, rfl, htold⟩ := Engine.failure_of_finished h
  cases stop with
  | none =>
    cases failure with
    | none => exact .inl ⟨rfl, rfl⟩
    | some f => cases htold
  | some err =>
    cases failure with
    | none => cases htold
    | some f =>
      rw [Option.map_some, Option.map_some, Option.some.injEq] at htold
      have hon := Engine.walk_stoppedOn hstop
      rw [← hcontext, ← Engine.failureOf_kind htold] at hon
      exact .inr ⟨err, f, rfl, rfl, hon⟩

/-- The result of a run that crashed outside its walk says so. -/
theorem crashed_failure {x : Execution} {p : Panic} (h : x.outcome = .crashed p) :
    ∃ f, x.result.failure = some f ∧ f.kind = .panic := by
  rw [result, h]
  exact ⟨_, rfl, rfl⟩

end Execution

namespace Outcome

/-- The error that a run returns, if it returns and it is not nil. -/
def error? : Outcome → Option WalkError
  | .finished _ stop => stop
  | .crashed _ => none

theorem eq_finished_of_error? {out : Outcome} {err : WalkError} (h : out.error? = some err) :
    ∃ r, out = .finished r (some err) := by
  cases out with
  | finished r stop =>
    obtain rfl : stop = some err := h
    exact ⟨r, rfl⟩
  | crashed p => cases h

end Outcome

section Requests

variable {τ : Type}

/-- A completer that notes its calls. -/
def Completer.noted (complete : Completer τ) : Completer (τ × List Result) := fun r s =>
  let (state, reply) := complete r s.1
  ((state, s.2 ++ [r]), reply)

namespace Request

/-- The same request, with its completer noting its calls. -/
def noting (q : Request τ) : Request (τ × List Result) := ⟨q.context, q.completer.map Completer.noted⟩

variable {q : Request τ} {x : Execution}

theorem finish_none (h : q.completer = none) (s : τ) : q.finish x s = (s, [], none) := by
  rw [finish, h]

theorem finish_some {complete : Completer τ} (h : q.completer = some complete) (s : τ) :
    q.finish x s = ((complete x.result s).1, x.completionLogs (complete x.result s).2,
      (complete x.result s).2.crash?) := by
  rw [finish, h]

/-- Noting the calls changes nothing else, and there is one, if there is anyone to call. -/
theorem finish_noting (q : Request τ) (x : Execution) (s : τ) (before : List Result) :
    q.noting.finish x (s, before) = (((q.finish x s).1,
      before ++ if q.completer.isSome then [x.result] else []), (q.finish x s).2) := by
  cases h : q.completer with
  | none =>
    have hnoting : q.noting.completer = none := by rw [noting, h, Option.map_none]
    rw [finish_none h, finish_none hnoting, Option.isSome_none, if_neg Bool.false_ne_true, List.append_nil]
  | some complete =>
    have hnoting : q.noting.completer = some complete.noted := by rw [noting, h, Option.map_some]
    rw [finish_some h, finish_some hnoting, Option.isSome_some, if_pos rfl]
    rfl

theorem crash?_eq_some_iff {reply : Reply} {t : String} : reply.crash? = some t ↔ reply = .panicked t := by
  cases reply with
  | done | failed f => exact iff_of_false nofun nofun
  | panicked t' => rw [Reply.crash?, Option.some.injEq, Reply.panicked.injEq]

theorem finish_crash (q : Request τ) (x : Execution) (s : τ) (t : String) :
    (q.finish x s).2.2 = some t ↔
      ∃ complete, q.completer = some complete ∧ (complete x.result s).2 = .panicked t := by
  cases h : q.completer with
  | none =>
    rw [finish_none h]
    exact iff_of_false nofun nofun
  | some complete =>
    rw [finish_some h, crash?_eq_some_iff]
    constructor
    · exact fun hcrash => ⟨complete, rfl, hcrash⟩
    · rintro ⟨called, hsame, hcrash⟩
      cases hsame
      exact hcrash

/-- Whatever program and context a request has, whatever its budget, its visitor and its observers, and
whenever it is called off: it returns, unless its completer crashes, and it has called the completer once,
if there is one. The result it was completed with is that of the context that the run left, a success if
it has no failure. When the run itself ends in a result, that is a success if the walk came to its end,
and else it fails with the kind of what the walk stopped on. -/
theorem completes_once {e : Engine} (hv : e.visitor.Keeps) (observed : Event → List Log.Entry)
    (look : Interrupts) (q : Request τ) (s : τ) (before : List Result) : ∃ r,
    let served := q.run e observed look s
    let x := e.execute look q.context
    served.execution = x ∧
      (q.noting.run e observed look (s, before)).state =
        (served.state, before ++ if q.completer.isSome then [r] else []) ∧
      (∀ complete, q.completer = some complete → served.state = (complete r s).1) ∧
      (∀ t, served.crash = some t ↔
        ∃ complete, q.completer = some complete ∧ (complete r s).2 = .panicked t) ∧
      r.messageId = q.context.message.id ∧
      (∀ p, q.context.program = some p → r.program = p.name) ∧
      (q.context.program = none → r.program = "") ∧
      r.steps = x.context.steps ∧ r.bindings = some x.context.bindings ∧
      (r.status = .success ↔ r.failure = none) ∧
      (∀ p, x.outcome = .crashed p → ∃ f, r.failure = some f ∧ f.kind = .panic) ∧
      ∀ r' stop, x.outcome = .finished r' stop → r' = r ∧ (stop = none ↔ r.status = .success) ∧
        ∀ err, stop = some err →
          ∃ f, r.failure = some f ∧ e.StoppedOn look q.context x.context err f.kind := by
  set x := e.execute look q.context
  have hwell := Execution.wellFormed e look q.context
  have hrequest := Engine.execute_request hv look q.context
  have hid : x.result.messageId = q.context.message.id := Engine.execute_messageId hv look q.context
  have hprogram : x.context.program = q.context.program := congrArg Prod.snd hrequest
  have hname : x.result.program = q.context.programName := by
    rw [hwell.program, Context.programName, Context.programName, hprogram]
  have hnoted : (q.noting.run e observed look (s, before)).state =
      ((q.run e observed look s).state, before ++ if q.completer.isSome then [x.result] else []) :=
    congrArg Prod.fst (finish_noting q x s before)
  refine ⟨x.result, rfl, hnoted, ?_, finish_crash q x s, hid, ?_, ?_, hwell.steps, hwell.bindings,
    hwell.success_iff, fun p hp => Execution.crashed_failure hp, ?_⟩
  · intro complete hcomplete
    exact congrArg Prod.fst (finish_some hcomplete s)
  · intro p hp
    rw [hname, Context.programName, hp]
  · intro hnone
    rw [hname, Context.programName, hnone]
  -- A run that ended hands on the result it ended in; only a crash puts another in its place.
  intro r stop hfinished
  have hresult : x.result = r := by rw [Execution.result, hfinished]
  have hsuccess := hwell.success_iff
  rw [hresult] at hsuccess ⊢
  refine ⟨rfl, ?_, ?_⟩
  · rw [hsuccess]
    rcases Execution.finished_cases hfinished with ⟨rfl, hnone⟩ | ⟨err, f, rfl, hsome, -⟩
    · exact iff_of_true rfl hnone
    · have hfailed : r.failure ≠ none := Option.ne_none_iff_exists'.mpr ⟨f, hsome⟩
      exact iff_of_false (Option.some_ne_none err) hfailed
  · intro err herr
    rcases Execution.finished_cases hfinished with ⟨rfl, -⟩ | ⟨err', f, rfl, hsome, hon⟩
    · cases herr
    · cases herr
      exact ⟨f, hsome, hon⟩

/-- A request to a program that never comes to an end, and somebody who wants no results. -/
def looping : Request Nat where
  context := .start ⟨"m", "loop", none, none⟩ (some ⟨"loop", "1",
    some ⟨[some (.assign 0 0 0)], [⟨0, .assign, "a", .lit .null, .empty, ⟨"", 0⟩⟩], 0⟩, none⟩)
  completer := some fun _ n => (n + 1, .failed ⟨"no", []⟩)

/-- It runs until its budget is used up, and its result is handed on once, although nobody wants it. -/
theorem completes_once_looping : ∃ r,
    (looping.run { maxSteps := 3 } (fun _ => []) .never 0).state = 1 ∧
    (looping.run { maxSteps := 3 } (fun _ => []) .never 0).crash = none ∧
    (looping.noting.run { maxSteps := 3 } (fun _ => []) .never (0, [])).state = (1, [r]) ∧
    r.messageId = "m" ∧ r.program = "loop" ∧ r.status ≠ .success ∧
    ∃ f, r.failure = some f ∧ f.kind = .stepLimit := by
  have hended : (({ maxSteps := 3 } : Engine).execute .never looping.context).outcome.error? =
      some (.stepLimit 0 3) := by decide +kernel
  obtain ⟨r', hout⟩ := Outcome.eq_finished_of_error? hended
  obtain ⟨r, -, hnoted, hstate, hcrash, hid, hname, -, -, -, -, -, hfinished⟩ :=
    completes_once (e := { maxSteps := 3 }) Visitor.standard_keeps (fun _ => []) .never looping 0 []
  have hone : (looping.run { maxSteps := 3 } (fun _ => []) .never 0).state = 1 := hstate _ rfl
  have hcalm : (looping.run { maxSteps := 3 } (fun _ => []) .never 0).crash = none := by
    rw [Option.eq_none_iff_forall_not_mem]
    intro t ht
    obtain ⟨complete, hsome, hpanic⟩ := (hcrash t).mp ht
    cases hsome
    cases hpanic
  rw [hone] at hnoted
  refine ⟨r, hone, hcalm, hnoted, hid, hname _ rfl, ?_⟩
  obtain ⟨-, hsuccess, hfailure⟩ := hfinished r' _ hout
  obtain ⟨f, hf, hon⟩ := hfailure _ rfl
  have hfailed : r.status ≠ .success := fun h => Option.some_ne_none _ (hsuccess.mpr h)
  exact ⟨hfailed, f, hf, hon.kind_eq⟩

end Request

end Requests
end Courier
