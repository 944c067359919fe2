import Courier.Proofs.Run.Step

/-! What holds of every request, whatever its visitor and its observers do.
Its result carries the id of its message, and it ends in that result unless an observer crashes. -/
namespace Courier

/-- What a context was started with. -/
def Context.request (c : Context) : Message × Option Program := (c.message, c.program)

/-- A visitor that cannot exchange the message or the program of the context it is given. -/
def Visitor.Keeps (v : Visitor) : Prop := ∀ n c, (v n c).1.request = c.request

theorem Visitor.standard_keeps : Visitor.standard.Keeps := by
  intro n c
  unfold standard
  split
  · next d hd =>
    obtain ⟨hmessage, hprogram, -⟩ := visit_frame hd
    rw [Context.request, hmessage, hprogram]
    rfl
  · rfl

namespace Engine

variable {e : Engine}

/-- A property of contexts that holds on when a walk comes to a node, counts it and runs it. -/
structure Keeps (e : Engine) (g : Graph) (P : Context → Prop) : Prop where
  visit : ∀ n c, P c → P (e.visitor n c).1
  come : ∀ cur c, (g.slot? cur).isSome → P c → P { c with cursor := cur }
  count : ∀ c, P c → P { c with steps := c.steps + 1 }

theorem walkFrom_keeps {g : Graph} {P : Context → Prop} (hkeeps : e.Keeps g P) (look : Interrupts)
    (fuel : Nat) (cur : Int) {c : Context} (h : P c) : P (e.walkFrom g look fuel cur c).context := by
  fun_induction walkFrom e g look fuel cur c with
  | case1 | case2 | case3 => exact h
  | case4 _ _ _ _ _ _ hslot | case5 _ _ _ _ _ hslot =>
    exact hkeeps.come _ _ (Option.isSome_of_eq_some hslot) h
  | case6 _ _ _ _ _ _ _ _ hslot | case7 _ _ _ _ _ _ _ _ _ _ _ _ hslot =>
    exact hkeeps.count _ (hkeeps.come _ _ (Option.isSome_of_eq_some hslot) h)
  | case8 _ _ _ _ _ _ _ arrived n _ _ d hd hslot ih =>
    have hvisited := hkeeps.visit n _ (hkeeps.count _ (hkeeps.come _ _ (Option.isSome_of_eq_some hslot) h))
    rw [hd] at hvisited
    exact ih hvisited
  | case9 _ _ _ _ _ _ _ arrived n _ _ d _ hd hslot | case10 _ _ _ _ _ _ _ arrived n _ _ d _ hd hslot =>
    have hvisited := hkeeps.visit n _ (hkeeps.count _ (hkeeps.come _ _ (Option.isSome_of_eq_some hslot) h))
    rw [hd] at hvisited
    exact hvisited

/-- A walk keeps the request, as each of its visits does. -/
theorem walkFrom_request (hv : e.visitor.Keeps) (g : Graph) (look : Interrupts) (fuel : Nat)
    (cur : Int) (c : Context) : (e.walkFrom g look fuel cur c).context.request = c.request := by
  have hkeeps : e.Keeps g fun d => d.request = c.request :=
    ⟨fun n d hd => (hv n d).trans hd, fun _ _ _ hd => hd, fun _ hd => hd⟩
  exact walkFrom_keeps hkeeps look fuel cur rfl

theorem walk_request (hv : e.visitor.Keeps) (look : Interrupts) (c : Context) :
    (e.walk look c).context.request = c.request := by
  unfold walk
  split
  · rfl
  · exact walkFrom_request hv _ look _ _ c

/-- An observer crashes on what it is told only if it is told. -/
theorem mem_told {ev : Event} {t : String} {evs : List Event} (htell : e.tell ev = some t)
    (hev : ev ∈ evs) : ev ∈ (if e.hook.isSome then evs else []) := by
  cases hhook : e.hook with
  | none =>
    -- Without an observer nobody can crash.
    rw [tell, hhook] at htell
    cases htell
  | some h => exact hev

/-- A request that starts and has no failure that cannot be told ends with its completion event. -/
theorem execute_told {look : Interrupts} {c : Context} {failure : Option Failure}
    (hstart : e.tell (.requestStart c.message.id c.programName) = none)
    (hstop : (e.walk look c).stop.map (failureOf (e.walk look c).context) = failure.map some) :
    (∃ earlier, (e.execute look c).events = if e.hook.isSome then earlier ++
        [.requestComplete c.message.id c.programName (resultOf (e.walk look c).context failure)]
      else []) ∧
      (∀ t, e.tell (.requestComplete c.message.id c.programName
          (resultOf (e.walk look c).context failure)) = some t →
        (e.execute look c).outcome = .crashed (.raised t)) ∧
      (e.tell (.requestComplete c.message.id c.programName
          (resultOf (e.walk look c).context failure)) = none →
        (e.execute look c).outcome =
          .finished (resultOf (e.walk look c).context failure) (e.walk look c).stop) := by
  cases failure with
  | none =>
    simp only [execute, hstart, hstop, Option.map_none, Option.join_none]
    exact ⟨⟨_ :: _, rfl⟩, fun t ht => by rw [ht], fun ht => by rw [ht]⟩
  | some f =>
    simp only [execute, hstart, hstop, Option.map_some, Option.join_some]
    exact ⟨⟨_ :: _, rfl⟩, fun t ht => by rw [ht], fun ht => by rw [ht]⟩

/-- How a request can end: an observer it told crashes, the failure of its walk cannot be told, or
it ends in a result. -/
theorem execute_cases (e : Engine) (look : Interrupts) (c : Context) :
    (∃ ev t, (e.execute look c).outcome = .crashed (.raised t) ∧
        ev ∈ (e.execute look c).events ∧ e.tell ev = some t) ∨
      (∃ err, (e.execute look c).outcome = .crashed .gap ∧ (e.walk look c).stop = some err ∧
        failureOf (e.walk look c).context err = none) ∨
      ∃ failure, (e.execute look c).outcome =
        .finished (resultOf (e.walk look c).context failure) (e.walk look c).stop := by
  cases hstart : e.tell (.requestStart c.message.id c.programName) with
  | some t =>
    simp only [execute, hstart]
    exact .inl ⟨_, t, rfl, mem_told hstart List.mem_cons_self, hstart⟩
  | none =>
    -- The walk is over. Its failure may be about a gap, of which nothing can be told.
    by_cases hgap : ∃ err, (e.walk look c).stop = some err ∧
        failureOf (e.walk look c).context err = none
    · obtain ⟨err, hstop, hf⟩ := hgap
      have hended : (e.walk look c).stop.map (failureOf (e.walk look c).context) = some none := by
        rw [hstop, Option.map_some, hf]
      refine .inr (.inl ⟨err, ?_, hstop, hf⟩)
      simp only [execute, hstart, hended]
    -- Otherwise the end of the walk is told, with the failure if there is one.
    have hstop : ∃ failure : Option Failure,
        (e.walk look c).stop.map (failureOf (e.walk look c).context) = failure.map some := by
      cases hstop : (e.walk look c).stop with
      | none => exact ⟨none, rfl⟩
      | some err =>
        cases hf : failureOf (e.walk look c).context err with
        | none => exact absurd ⟨err, hstop, hf⟩ hgap
        | some f => exact ⟨some f, by rw [Option.map_some, hf]; rfl⟩
    obtain ⟨failure, hstop⟩ := hstop
    obtain ⟨⟨earlier, hevents⟩, hcrashed, hfinished⟩ := execute_told hstart hstop
    rw [hevents]
    cases htell : e.tell (.requestComplete c.message.id c.programName
      (resultOf (e.walk look c).context failure)) with
    | some t =>
      refine .inl ⟨_, t, hcrashed t htell, ?_, htell⟩
      exact mem_told htell (List.mem_append_right earlier List.mem_cons_self)
    | none => exact .inr (.inr ⟨failure, hfinished htell⟩)

/-- A request that ended in a result was started and stopped as its walk did. It told its observers
of nothing but its start, the nodes it dispatched and its end. -/
theorem of_execute_finished {look : Interrupts} {c : Context} {r : Result} {stop : Option WalkError}
    (h : (e.execute look c).outcome = .finished r stop) :
    e.tell (.requestStart c.message.id c.programName) = none ∧
      (∃ failure, r = resultOf (e.walk look c).context failure) ∧ (e.walk look c).stop = stop ∧
      e.tell (.requestComplete c.message.id c.programName r) = none ∧
      ∀ ev ∈ (e.execute look c).events, ev = .requestStart c.message.id c.programName ∨
        (∃ g, c.graph = some g ∧ ∃ v ∈ (e.walk look c).visits, ev = visitEvent g c v) ∨
        ev = .requestComplete c.message.id c.programName r := by
  cases hstart : e.tell (.requestStart c.message.id c.programName) with
  | some t =>
    simp only [execute, hstart] at h
    cases h
  | none =>
    simp only [execute, hstart] at h ⊢
    split at h
    · cases h
    · dsimp only at h
      split at h
      · cases h
      · next hcomplete =>
        cases h
        refine ⟨trivial, ⟨_, rfl⟩, rfl, hcomplete, fun ev hev => ?_⟩
        split at hev
        · rcases List.mem_cons.mp hev with hev | hev
          · exact .inl hev
          rcases List.mem_append.mp hev with hev | hev
          · split at hev
            · next g hg =>
              obtain ⟨v, hv, rfl⟩ := List.mem_map.mp hev
              exact .inr (.inl ⟨g, hg, v, hv, rfl⟩)
            · cases hev
          · exact .inr (.inr (List.mem_singleton.mp hev))
        · cases hev

/-- A crash of an observer at a node is among the events of the request. -/
theorem visitEvent_mem_events {look : Interrupts} {c : Context} {g : Graph} {v : Visit} {t : String}
    (hg : c.graph = some g)
    (hstart : e.tell (.requestStart c.message.id c.programName) = none)
    (hv : v ∈ (e.walk look c).visits) (ht : e.tell (visitEvent g c v) = some t) :
    visitEvent g c v ∈ (e.execute look c).events := by
  have hmem : visitEvent g c v ∈ (e.walk look c).visits.map (visitEvent g c) :=
    List.mem_map_of_mem hv
  simp only [execute, hstart, hg]
  split
  · exact mem_told ht (List.mem_cons_of_mem _ hmem)
  · exact mem_told ht (List.mem_cons_of_mem _ (List.mem_append_left _ hmem))

theorem requestStart_mem_events {look : Interrupts} {c : Context} {t : String}
    (ht : e.tell (.requestStart c.message.id c.programName) = some t) :
    .requestStart c.message.id c.programName ∈ (e.execute look c).events := by
  simp only [execute, ht]
  exact mem_told ht List.mem_cons_self

theorem execute_request (hv : e.visitor.Keeps) (look : Interrupts) (c : Context) :
    (e.execute look c).context.request = c.request := by
  have hwalk := walk_request hv look c
  unfold execute
  dsimp only
  split
  · rfl
  · split <;> exact hwalk

/-- The result of a request carries the id of its message, however the request ended. -/
theorem execute_messageId (hv : e.visitor.Keeps) (look : Interrupts) (c : Context) :
    (e.execute look c).result.messageId = c.message.id := by
  have hrequest := execute_request hv look c
  have hid : (e.execute look c).context.message.id = c.message.id :=
    congrArg (fun r => r.1.id) hrequest
  have hwalk : (e.walk look c).context.message.id = c.message.id :=
    congrArg (fun r => r.1.id) (walk_request hv look c)
  unfold Execution.result
  obtain ⟨ev, t, hout, -⟩ | ⟨err, hout, -⟩ | ⟨failure, hout⟩ := execute_cases e look c
  · rw [hout]
    exact hid
  · rw [hout]
    exact hid
  · rw [hout]
    exact hwalk

/-- A request to a graph without gaps ends in its result when no observer it told crashed. -/
theorem execute_finished {c : Context} (hv : e.visitor.Keeps)
    (hgap : ∀ g, c.graph = some g → ∀ i, g.slot? i ≠ some none) (look : Interrupts)
    (hquiet : ∀ ev ∈ (e.execute look c).events, e.tell ev = none) :
    ∃ err, (e.execute look c).outcome = .finished (e.execute look c).result err := by
  have hrequest := walk_request hv look c
  have hgraph : (e.walk look c).context.graph = c.graph :=
    congrArg (fun r : Message × Option Program => r.2.bind Program.graph) hrequest
  obtain ⟨ev, t, -, hev, htell⟩ | ⟨err, -, -, hnone⟩ | ⟨failure, hout⟩ := execute_cases e look c
  · rw [hquiet ev hev] at htell
    cases htell
  -- The walk has kept its graph, and that has no gaps.
  · rw [← hgraph] at hgap
    have hsome := failureOf_isSome hgap err
    rw [hnone] at hsome
    cases hsome
  · exact ⟨(e.walk look c).stop, by rw [Execution.result, hout]⟩

end Engine
end Courier
