import Courier.Proofs.Pool.Operations
import Courier.Proofs.Registry
import Courier.Proofs.Service.Claims
import Courier.Service.Host

/-! A message that is turned away leaves no trace. It is turned away for the first check that fails, and
afterwards nothing waits that did not wait before, its responder is known to nobody, and the ids that
are taken are those that were taken. -/
namespace Courier

/-! ### What messages are handed to -/

/-- A pool, or a handle that builds its pool when it is first used. -/
inductive Intake (α : Type)
  | pool (p : Pool α)
  | handle (l : Pool.Lazy α) (fresh : l.spent = false → l.pool = none)

namespace Pool

variable {α : Type}

/-- Why a pool would refuse a unit now. -/
def refusal (p : Pool α) : Option SubmitError :=
  if p.state ≠ .active then some .closed
  else if p.size.capacity ≤ p.queue.length then some .saturated
  else none

/-- A pool answers as it must, and changes nothing that waits or runs but that it queues the unit. -/
theorem submit_refusal (p : Pool α) (u : α) : (p.submit (some u)).2 = p.refusal ∧
    (p.submit (some u)).1.running = p.running ∧
    (p.submit (some u)).1.queue = p.queue ++ (if p.refusal.isNone then [u] else []) := by
  rcases hsubmit : p.submit (some u) with ⟨q, e⟩
  rcases submit_cases hsubmit with ⟨he, hstate, hq⟩ | ⟨he, hstate, hfull, hq⟩ | ⟨he, hstate, hfree, hq⟩
  · have hrefusal : p.refusal = some .closed := if_pos hstate
    rw [he, hrefusal, hq]
    exact ⟨rfl, rfl, (List.append_nil _).symm⟩
  · have hrefusal : p.refusal = some .saturated := by
      rw [refusal, if_neg (not_not.mpr hstate), if_pos hfull]
    rw [he, hrefusal, hq]
    exact ⟨rfl, rfl, (List.append_nil _).symm⟩
  · have hrefusal : p.refusal = none := by
      rw [refusal, if_neg (not_not.mpr hstate), if_neg (Nat.not_le.mpr hfree)]
    rw [he, hrefusal, hq]
    exact ⟨rfl, rfl, rfl⟩

/-- Of a unit that is refused nothing is kept. -/
theorem submit_of_refusal {p : Pool α} (h : p.refusal.isSome) (u v : α) :
    p.submit (some u) = p.submit (some v) := by
  unfold refusal at h
  unfold submit
  split_ifs at h ⊢ with hstate hfull
  · rfl
  · rfl
  · cases h

namespace Lazy

theorem build_spent (l : Lazy α) : l.build.spent = true := by
  unfold build
  split_ifs with hspent
  · exact hspent
  · rfl
  · rfl

theorem submit_spent (l : Lazy α) (u : α) : (l.submit (some u)).1.spent = true := by
  cases hpool : l.build.pool with
  | none =>
    rw [submit_of_none hpool]
    exact l.build_spent
  | some p =>
    rw [submit_of_some hpool]
    exact l.build_spent

end Lazy
end Pool

namespace Intake

variable {α : Type}

def submit (u : α) : Intake α → Intake α × Option Fault
  | .pool p => (.pool (p.submit (some u)).1, (p.submit (some u)).2.map Pool.SubmitError.fault)
  | .handle l _ =>
    (.handle (l.submit (some u)).1 fun h => absurd (l.submit_spent u) (by rw [h]; nofun),
      (l.submit (some u)).2.map Pool.SubmitError.fault)

/-- The pool that there is now. -/
def pool? : Intake α → Option (Pool α)
  | .pool p => some p
  | .handle l _ => l.pool

/-- The units that wait. -/
def queue (q : Intake α) : List α := (q.pool?.map Pool.queue).getD []

/-- The units that run. -/
def running (q : Intake α) : List α := (q.pool?.map Pool.running).getD []

/-- Why a unit would be refused now: no pool is to be had, or the pool refuses it. -/
def refusal : Intake α → Option Pool.SubmitError
  | .pool p => p.refusal
  | .handle l _ =>
    match l.build.pool with
    | none => some .closed
    | some p => p.refusal

/-- A pool that a handle builds is empty. -/
theorem handle_build (l : Pool.Lazy α) (h : l.spent = false → l.pool = none) :
    (handle l h).queue = (l.build.pool.map Pool.queue).getD [] ∧
      (handle l h).running = (l.build.pool.map Pool.running).getD [] := by
  cases hspent : l.spent with
  | true =>
    have hbuild : l.build = l := if_pos hspent
    rw [hbuild]
    exact ⟨rfl, rfl⟩
  | false =>
    have hpool : l.build.pool = if l.closed then none else some { size := l.size } := by
      rw [Pool.Lazy.build, if_neg (by rw [hspent]; exact Bool.false_ne_true)]
    rw [queue, running, pool?, h hspent, hpool]
    split_ifs
    · exact ⟨rfl, rfl⟩
    · exact ⟨rfl, rfl⟩

theorem submit_refusal (q : Intake α) (u : α) :
    (q.submit u).2 = q.refusal.map Pool.SubmitError.fault ∧
    (q.submit u).1.running = q.running ∧
    (q.submit u).1.queue = q.queue ++ (if q.refusal.isNone then [u] else []) := by
  cases q with
  | pool p =>
    obtain ⟨hanswer, hrunning, hqueue⟩ := p.submit_refusal u
    exact ⟨congrArg (Option.map _) hanswer, hrunning, hqueue⟩
  | handle l h =>
    obtain ⟨hbefore, hbusy⟩ := handle_build l h
    rw [hbefore, hbusy]
    cases hpool : l.build.pool with
    | none =>
      simp [submit, refusal, queue, running, pool?, Pool.Lazy.submit_of_none hpool, hpool]
    | some p =>
      obtain ⟨hanswer, hrunning, hqueue⟩ := p.submit_refusal u
      simp only [submit, refusal, queue, running, pool?, Pool.Lazy.submit_of_some hpool, hpool]
      exact ⟨congrArg (Option.map _) hanswer, hrunning, hqueue⟩

theorem submit_of_refusal {q : Intake α} (h : q.refusal.isSome) (u v : α) :
    q.submit u = q.submit v := by
  cases q with
  | pool p => simp only [submit, Pool.submit_of_refusal h u v]
  | handle l hfresh =>
    have hsame : l.submit (some u) = l.submit (some v) := by
      cases hpool : l.build.pool with
      | none => rw [Pool.Lazy.submit_of_none hpool, Pool.Lazy.submit_of_none hpool]
      | some p =>
        have hp : p.refusal.isSome := by
          simpa only [refusal, hpool] using h
        rw [Pool.Lazy.submit_of_some hpool, Pool.Lazy.submit_of_some hpool,
          Pool.submit_of_refusal hp u v]
    simp only [submit, hsame]

end Intake

/-! ### Claims that are given back -/

namespace MemoryClaims

/-- Every later attempt to claim an id is answered as it would have been. -/
def Alike (c c' : MemoryClaims) : Prop :=
  ∀ later, 0 ≤ later → ∀ id ttl, ((c'.advance later).claim id ttl).2 = ((c.advance later).claim id ttl).2

theorem Alike.refl (c : MemoryClaims) : Alike c c := fun _ _ _ _ => rfl

theorem claim_answer (c : MemoryClaims) (id : String) (ttl : Int) :
    (c.claim id ttl).2 = !c.holds id := by
  unfold claim
  cases c.holds id with
  | true => rfl
  | false => rfl

theorem holds_congr {c c' : MemoryClaims} {id : String} (hnow : c'.now = c.now)
    (hget : Keyed.get? c'.claims id = Keyed.get? c.claims id) : c'.holds id = c.holds id := by
  unfold holds
  rw [hnow, hget]

theorem holds_of_get?_eq_none {c : MemoryClaims} {id : String} (h : Keyed.get? c.claims id = none) :
    c.holds id = false := by
  unfold holds
  rw [h]

/-- An id that nobody holds is held by nobody later on. -/
theorem holds_advance {c : MemoryClaims} {id : String} (h : c.holds id = false) {later : Int}
    (hlater : 0 ≤ later) : (c.advance later).holds id = false := by
  have hclaims : (c.advance later).claims = c.claims := rfl
  have hnow : (c.advance later).now = c.now + later := rfl
  unfold holds at h ⊢
  rw [hclaims, hnow]
  cases hget : Keyed.get? c.claims id with
  | none => rfl
  | some expiry =>
    rw [hget] at h
    cases expiry with
    | none => cases h
    | some t =>
      have hpast := of_decide_eq_false h
      exact decide_eq_false (by omega)

/-- A claim that is given back leaves what was before, also if it took the place of one that had
expired. -/
theorem alike_release {c c' : MemoryClaims} {id : String} {ttl : Int}
    (h : c.claim id ttl = (c', true)) : Alike c (c'.release id) := by
  obtain ⟨hfalse, -⟩ | ⟨-, hfree, rfl⟩ := claim_cases h
  · cases hfalse
  intro later hlater other ttl'
  rw [claim_answer, claim_answer]
  congr 1
  by_cases hid : id = other
  · subst hid
    rw [holds_advance hfree hlater]
    exact holds_of_get?_eq_none (Keyed.get?_erase_self _ _)
  · refine holds_congr ?_ ?_
    · rfl
    change Keyed.get? (Keyed.erase id (Keyed.insert id _ c.claims)) other = Keyed.get? c.claims other
    rw [Keyed.get?_erase_of_ne _ hid, Keyed.get?_insert_of_ne _ hid]

end MemoryClaims

/-- A world in which ids are claimed in memory, and fresh ids are drawn from elsewhere. If there is no
time for claims, ids are not claimed at all. -/
structure ClaimBook (σ : Type) where
  claims : σ → MemoryClaims
  write : MemoryClaims → σ → σ
  claims_write : ∀ c s, claims (write c s) = c
  freshId : σ → String × σ
  claims_freshId : ∀ s, claims (freshId s).2 = claims s
  ttl : Option Int

namespace ClaimBook

variable {σ α : Type} (b : ClaimBook σ)

def admission : Admission σ where
  freshId := b.freshId
  claims := b.ttl.map fun ttl => (MemoryClaims.claimer.focus b.claims b.write, ttl)

theorem claims_identify (m : Message) (o : Outside σ) :
    b.claims (b.admission.identify m o).2.shared = b.claims o.shared := by
  unfold Admission.identify
  split_ifs
  · exact b.claims_freshId o.shared
  · rfl

/-- An id is claimed unless someone holds it, and a claim can be given back. -/
theorem claim_cases (id : String) (s : σ) :
    (b.ttl.isSome ∧ (b.claims s).holds id = true ∧ ∃ s', b.claims s' = b.claims s ∧
      b.admission.claim id s = (s', .error (.duplicate, Rejection.duplicate))) ∨
    (¬ (b.ttl.isSome ∧ (b.claims s).holds id = true) ∧ ∃ s' s'',
      b.admission.claim id s = (s', .ok ()) ∧ b.admission.release id s' = (s'', none) ∧
      (b.claims s).Alike (b.claims s'')) := by
  cases httl : b.ttl with
  | none =>
    refine .inr ⟨by simp, s, s, ?_, ?_, .refl _⟩
    · simp only [Admission.claim, admission, httl, Option.map_none]
    · simp only [Admission.release, admission, httl, Option.map_none]
  | some ttl =>
    rcases hclaim : (b.claims s).claim id ttl with ⟨c, ok⟩
    have hanswer := (b.claims s).claim_answer id ttl
    rw [hclaim] at hanswer
    cases ok with
    | false =>
      obtain ⟨-, hsame⟩ | ⟨htrue, -⟩ := MemoryClaims.claim_cases hclaim
      · refine .inl ⟨rfl, by simpa using hanswer, b.write c s, ?_, ?_⟩
        · rw [b.claims_write, hsame]
        · simp only [Admission.claim, admission, httl, Option.map_some, Claimer.focus,
            MemoryClaims.claimer, hclaim]
      · cases htrue
    | true =>
      have hfree : (b.claims s).holds id = false := by simpa using hanswer
      refine .inr ⟨by simp [hfree], b.write c s, b.write (c.release id) (b.write c s), ?_, ?_, ?_⟩
      · simp only [Admission.claim, admission, httl, Option.map_some, Claimer.focus,
          MemoryClaims.claimer, hclaim]
      · simp only [Admission.release, admission, httl, Option.map_some, Claimer.focus,
          MemoryClaims.claimer, b.claims_write]
      · rw [b.claims_write]
        exact MemoryClaims.alike_release hclaim

/-! ### The checks -/

/-- What is wrong with the fields of a message, for the program it names. -/
def misfit (registry : Registry) (m : Message) : Option (Reason × Fault) :=
  match registry.program m.program with
  | .error _ => none
  | .ok p =>
    match p.schema.failures m.fields with
    | [] => none
    | fs => some (.invalidPayload, ⟨Schema.failureMessage fs, []⟩)

/-- The checks that need neither claim nor pool, each with why it fails, if it does: the name of a
program, a responder, the program itself and its input. -/
def messageChecks (registry : Registry) (m : Message) (answered : Bool) :
    List (Option (Reason × Fault)) :=
  [if m.program = "" then some (.invalidMessage, Rejection.noProgram) else none,
    if answered then none else some (.invalidMessage, Rejection.noResponder),
    match registry.program m.program with
    | .error f => some (.unknownProgram, f)
    | .ok _ => none,
    misfit registry m]

/-- Why the pool would refuse, as a reason. -/
def refusalReason : Pool.SubmitError → Reason
  | .closed => .closed
  | .saturated => .saturated
  | .noUnit => .unavailable

/-- All checks in their order, as the claims and the pool are at first. -/
def checks (registry : Registry) (m : Message) (answered : Bool) (c : MemoryClaims) (q : Intake α) :
    List (Option (Reason × Fault)) :=
  messageChecks registry m answered ++
    [if b.ttl.isSome ∧ c.holds m.id = true then some (.duplicate, Rejection.duplicate) else none,
      q.refusal.map fun e => (refusalReason e, e.fault)]

/-- Why the first check fails that does. -/
def firstFailure (registry : Registry) (m : Message) (answered : Bool) (c : MemoryClaims)
    (q : Intake α) : Option (Reason × Fault) :=
  (b.checks registry m answered c q).findSome? id

theorem resolve_cases (registry : Registry) (m : Message) (answered : Bool) :
    (∃ e, Admission.resolve registry m answered = .error e ∧
      (messageChecks registry m answered).findSome? id = some e) ∨
    (∃ p, Admission.resolve registry m answered = .ok p ∧
      (messageChecks registry m answered).findSome? id = none) := by
  by_cases hname : m.program = ""
  · refine .inl ⟨(.invalidMessage, Rejection.noProgram), ?_, ?_⟩
    · rw [Admission.resolve, if_pos hname]
      rfl
    · simp [messageChecks, hname]
  cases answered with
  | false =>
    refine .inl ⟨(.invalidMessage, Rejection.noResponder), ?_, ?_⟩
    · rw [Admission.resolve, if_neg hname]
      rfl
    · simp [messageChecks, hname]
  | true =>
    cases hprogram : registry.program m.program with
    | error f =>
      refine .inl ⟨(.unknownProgram, f), ?_, ?_⟩
      · rw [Admission.resolve, if_neg hname, hprogram]
        rfl
      · simp [messageChecks, hname, hprogram]
    | ok p =>
      cases hfailures : p.schema.failures m.fields with
      | nil =>
        refine .inr ⟨p, ?_, ?_⟩
        · simp [Admission.resolve, hname, hprogram, hfailures, Except.mapError, bind, Except.bind,
            pure, Except.pure]
        · simp [messageChecks, misfit, hname, hprogram, hfailures]
      | cons f fs =>
        refine .inl ⟨(.invalidPayload, ⟨Schema.failureMessage (f :: fs), []⟩), ?_, ?_⟩
        · simp [Admission.resolve, hname, hprogram, hfailures, Except.mapError, bind, Except.bind,
            throw, throwThe, MonadExceptOf.throw]
        · simp [messageChecks, misfit, hname, hprogram, hfailures]

theorem refusalReason_eq (e : Pool.SubmitError) : refusalReason e = .ofSubmission e.fault := by
  cases e <;> rfl

theorem firstFailure_of_some {registry : Registry} {m : Message} {answered : Bool}
    {e : Reason × Fault} (h : (messageChecks registry m answered).findSome? id = some e)
    (c : MemoryClaims) (q : Intake α) : b.firstFailure registry m answered c q = some e := by
  rw [firstFailure, checks, List.findSome?_append, h]
  rfl

theorem firstFailure_of_none {registry : Registry} {m : Message} {answered : Bool}
    (h : (messageChecks registry m answered).findSome? id = none) (c : MemoryClaims)
    (q : Intake α) : b.firstFailure registry m answered c q =
      if b.ttl.isSome ∧ c.holds m.id = true then some (.duplicate, Rejection.duplicate)
      else q.refusal.map fun e => (refusalReason e, e.fault) := by
  rw [firstFailure, checks, List.findSome?_append, h, Option.none_or]
  split_ifs with hheld
  · rfl
  · cases q.refusal <;> rfl

/-- Nothing is left behind: what waits and what runs is the same, nobody was told anything, whoever
else would have answered, and every later claim is answered as it would have been. -/
structure Traceless (o : Outside σ) (q : Intake (Job σ)) (r : Receipt σ (Intake (Job σ))) : Prop where
  queue : r.pool.queue = q.queue
  running : r.pool.running = q.running
  boxes : r.outside.boxes = o.boxes
  events : r.outside.events = o.events
  claims : (b.claims o.shared).Alike (b.claims r.outside.shared)

/-- The receipt of a message that is turned away. -/
def turnedAway (m : Message) (e : Reason × Fault) (o : Outside σ) (q : Intake (Job σ)) :
    Receipt σ (Intake (Job σ)) :=
  ⟨o.logged [⟨.debug, "message rejected", [("message_id", m.id), ("program", m.program)] ++
    [("reason", e.1.name), ("err", e.2.message)]⟩], q, some ⟨m.id, m.program, e.1, e.2⟩⟩

/-- Taking a message ends in one of two ways. Either some check fails, and then the receipt is the
same whoever would have answered; or its job is queued. -/
theorem receive_cases (registry : Registry) (m : Message) (answer : Option (Responder (Outside σ)))
    (o : Outside σ) (q : Intake (Job σ)) {m' : Message} {o' : Outside σ}
    (hid : b.admission.identify m o = (m', o')) :
    (∃ e o'' q', b.firstFailure registry m' answer.isSome (b.claims o.shared) q = some e ∧
      b.Traceless o q (turnedAway m' e o'' q') ∧
      ∀ other, other.isSome = answer.isSome →
        b.admission.receive registry Intake.submit m other o q = turnedAway m' e o'' q') ∨
    (b.firstFailure registry m' answer.isSome (b.claims o.shared) q = none ∧
      ∃ job r, b.admission.receive registry Intake.submit m answer o q = r ∧ r.rejection = none ∧
        r.pool.queue = q.queue ++ [job] ∧ r.pool.running = q.running ∧
        job.context.message = m' ∧ job.handle.responder = answer) := by
  have hclaims : b.claims o'.shared = b.claims o.shared := by
    rw [← b.claims_identify m o, hid]
  have hkept : o'.boxes = o.boxes ∧ o'.events = o.events := by
    unfold Admission.identify at hid
    split_ifs at hid
    · cases hid
      exact ⟨rfl, rfl⟩
    · cases hid
      exact ⟨rfl, rfl⟩
  rcases resolve_cases registry m' answer.isSome with ⟨e, hresolve, hchecks⟩ | ⟨p, hresolve, hchecks⟩
  · refine .inl ⟨e, o', q, b.firstFailure_of_some hchecks _ q, ?_, fun other hother => ?_⟩
    · exact ⟨rfl, rfl, hkept.1, hkept.2, fun _ _ _ _ => by rw [← hclaims]; rfl⟩
    · simp only [Admission.receive, hid, hother, hresolve]
      rfl
  rcases b.claim_cases m'.id o'.shared with
    ⟨httl, hheld, s, hs, hclaim⟩ | ⟨hfree, s, s', hclaim, hrelease, halike⟩
  · rw [hclaims] at hheld hs
    have hfirst := b.firstFailure_of_none hchecks (b.claims o.shared) q
    rw [if_pos ⟨httl, hheld⟩] at hfirst
    refine .inl ⟨_, { o' with shared := s }, q, hfirst, ?_, fun other hother => ?_⟩
    · exact ⟨rfl, rfl, hkept.1, hkept.2, fun _ _ _ _ => by rw [← hs]; rfl⟩
    · simp only [Admission.receive, hid, hother, hresolve, hclaim]
      rfl
  rw [hclaims] at hfree halike
  have hfirst := b.firstFailure_of_none hchecks (b.claims o.shared) q
  rw [if_neg hfree] at hfirst
  -- The job is the one thing that differs by who answers, and a refusal forgets it.
  let job (other : Option (Responder (Outside σ))) : Job σ :=
    ⟨Context.start m' (some p), { messageId := m'.id, responder := other }, none⟩
  have hrefuse := q.submit_refusal (job answer)
  rcases hsubmit : q.submit (job answer) with ⟨q', f⟩
  rw [hsubmit] at hrefuse
  obtain ⟨rfl, hrunning, hqueue⟩ := hrefuse
  cases hrefusal : q.refusal with
  | none =>
    rw [hrefusal] at hfirst hqueue hsubmit
    refine .inr ⟨hfirst, job answer, _, rfl, ?_⟩
    simp only [Admission.receive, hid, hresolve, hclaim]
    change q.submit _ = (q', none) at hsubmit
    simp only [job] at hsubmit
    simp only [hsubmit]
    exact ⟨trivial, hqueue, hrunning, rfl, rfl⟩
  | some e =>
    rw [hrefusal] at hfirst hqueue hsubmit
    rw [Option.map_some, refusalReason_eq] at hfirst
    refine .inl ⟨_, { o' with shared := s' }, q', hfirst, ?_, fun other hother => ?_⟩
    · exact ⟨hqueue.trans (List.append_nil _), hrunning, hkept.1, hkept.2, halike⟩
    · rw [Intake.submit_of_refusal (by rw [hrefusal]; rfl) (job answer) (job other)] at hsubmit
      change q.submit _ = (q', some e.fault) at hsubmit
      simp only [job] at hsubmit
      simp only [Admission.receive, hid, hother, hresolve, hclaim, hsubmit, hrelease]
      simp only [Outside.logged, turnedAway, List.append_nil]

/-- Taking a message, with or without a responder, at any pool and any claims. It is accepted exactly
if a unit more waits than before, which is its job. Else it is turned away for the first check that
fails, in their order, which both the rejection and its cause can be told from; then nothing is left
behind, the outcome is the same whoever would have answered, so that nobody is ever called, and a later
attempt with the message is judged as if this one had not been. -/
theorem receive_traceless (registry : Registry) (m : Message)
    (answer : Option (Responder (Outside σ))) (o : Outside σ) (q : Intake (Job σ)) :
    let m' := (b.admission.identify m o).1
    let r := b.admission.receive registry Intake.submit m answer o q
    r.rejection = (b.firstFailure registry m' answer.isSome (b.claims o.shared) q).map
        (fun e => ⟨m'.id, m'.program, e.1, e.2⟩) ∧
    (r.rejection = none ↔ ∃ job, r.pool.queue = q.queue ++ [job]) ∧
    (r.rejection = none → r.pool.running = q.running ∧ ∃ job, r.pool.queue = q.queue ++ [job] ∧
      job.context.message = m' ∧ job.handle.responder = answer) ∧
    ∀ j, r.rejection = some j →
      (Mark.rejected ∈ j.fault.marks ∧ j.cause.marks ⊆ j.fault.marks) ∧
      b.Traceless o q r ∧
      (∀ other, other.isSome = answer.isSome →
        b.admission.receive registry Intake.submit m other o q = r) ∧
      ∀ later, 0 ≤ later → ∀ q' : Intake (Job σ),
        b.firstFailure registry m' answer.isSome ((b.claims r.outside.shared).advance later) q' =
          b.firstFailure registry m' answer.isSome ((b.claims o.shared).advance later) q' := by
  intro m' r
  have hid : b.admission.identify m o = (m', (b.admission.identify m o).2) := rfl
  rcases b.receive_cases registry m answer o q hid with
    ⟨e, o', q', hfirst, htrace, hsame⟩ |
    ⟨hfirst, job, r', hr, haccepted, hqueue, hrunning, hmessage, hanswer⟩
  · have hr : r = turnedAway m' e o' q' := hsame answer rfl
    have hnever : ¬ r.rejection = none := by
      rw [hr]
      nofun
    refine ⟨by rw [hr, hfirst]; rfl, ?_, fun h => absurd h hnever, ?_⟩
    · refine ⟨fun h => absurd h hnever, ?_⟩
      rintro ⟨job, hjob⟩
      rw [hr, htrace.queue] at hjob
      have hlength := congrArg List.length hjob
      rw [List.length_append, List.length_singleton] at hlength
      omega
    · intro j _
      rw [hr]
      refine ⟨⟨List.mem_cons_self, List.subset_cons_self _ _⟩, htrace, hsame, ?_⟩
      intro later hlater q''
      have hheld := htrace.claims later hlater m'.id 0
      rw [MemoryClaims.claim_answer, MemoryClaims.claim_answer] at hheld
      rw [firstFailure, firstFailure, checks, checks, Bool.not_inj hheld]
  · have hr' : r = r' := hr
    rw [hr']
    refine ⟨by rw [haccepted, hfirst]; rfl, ?_, ?_, ?_⟩
    · exact ⟨fun _ => ⟨job, hqueue⟩, fun _ => haccepted⟩
    · intro _
      exact ⟨hrunning, job, hqueue, hmessage, hanswer⟩
    · intro j hj
      rw [haccepted] at hj
      cases hj

end ClaimBook

/-! ### The claims of a service -/

namespace Site

/-- A site that keeps claims in memory, for a time if ids are claimed at all. -/
def claimBook (ttl : Option Int) : ClaimBook Site where
  claims t := t.depot.claims
  write c t := { t with depot := { t.depot with claims := c } }
  claims_write _ _ := rfl
  freshId := Site.freshId
  claims_freshId _ := rfl
  ttl := ttl

/-- This is how a service takes its messages. -/
theorem claimBook_admission (ttl : Option Int) : (claimBook ttl).admission =
    ⟨Site.freshId, ttl.map fun ttl => (Site.claimer Depot.memoryClaimer, ttl)⟩ := by
  cases ttl <;> rfl

/-- A site at which the claim on a message has expired. -/
def lapsed : Outside Site := { shared := { depot := { claims := ⟨100, [("m1", some 50)]⟩ } } }

/-- A pool with room for one job, which has one. -/
def crowded : Intake (Job Site) :=
  .pool { size := ⟨1, 1⟩, queue := [⟨.start ⟨"m0", "greet", none, none⟩ (some Concurrent.Watched.greet),
    { messageId := "m0", responder := none }, none⟩] }

/-- The message claims its id again, and then there is no room for it. It waits nowhere, and as soon as
there is room it would be taken. -/
theorem receive_traceless_crowded :
    let b := claimBook (some 10)
    let m : Message := ⟨"m1", "greet", none, none⟩
    let registry : Registry := [("greet", Concurrent.Watched.greet)]
    let r := b.admission.receive registry Intake.submit m (some fun _ o => (o, .done)) lapsed crowded
    r.rejection = some ⟨"m1", "greet", .saturated, ⟨"worker pool saturated", [.saturated]⟩⟩ ∧
      r.pool.queue = crowded.queue ∧
      b.firstFailure registry m true ((b.claims r.outside.shared).advance 0)
        (.pool ({ size := ⟨1, 1⟩ } : Pool (Job Site))) = none := by
  intro b m registry r
  obtain ⟨hrejection, -, -, hkept⟩ :=
    b.receive_traceless registry m (some fun _ o => (o, .done)) lapsed crowded
  have hfull : r.rejection = some ⟨"m1", "greet", .saturated, ⟨"worker pool saturated", [.saturated]⟩⟩ :=
    hrejection
  obtain ⟨-, htrace, -, hlater⟩ := hkept _ hfull
  exact ⟨hfull, htrace.queue, hlater 0 (Int.le_refl 0) _⟩

end Site
end Courier
