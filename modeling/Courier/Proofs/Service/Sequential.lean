import Courier.Proofs.Completion
import Courier.Proofs.Service.Concurrent
import Courier.Service.Basic

/-! The operations of a service at one go, as runs of the steps of those who take part.
What holds of every order of steps so holds of a service that takes one message after the other. -/
namespace Courier.Concurrent

variable {τ : Type} {a : Admission τ} {k : Conduct}

/-- The state in which one more caller has come so far, with the world and the pool as they are. -/
def State.bring (s : State τ) (c : Call τ) (o : Outside (Ledger τ)) (q : Pool (Task τ)) : State τ :=
  { s with outside := o, pool := q, calls := s.calls ++ [c] }

theorem State.bring_getElem? (s : State τ) (c : Call τ) (o : Outside (Ledger τ))
    (q : Pool (Task τ)) : (s.bring c o q).calls[s.calls.length]? = some c := by
  simp [bring]

theorem State.bring_move (s : State τ) (c : Call τ) (o : Outside (Ledger τ)) (q : Pool (Task τ))
    (stage : Stage) :
    (s.bring c o q).move s.calls.length c stage = s.bring { c with stage } o q := by
  simp [bring, move]

theorem State.bring_reject (s : State τ) (c : Call τ) (o : Outside (Ledger τ)) (q : Pool (Task τ))
    (reason : Reason) (f : Fault) :
    (s.bring c o q).reject s.calls.length c reason f =
      s.bring { c with stage := .rejected ⟨c.message.id, c.message.program, reason, f⟩ }
        (o.logged [⟨.debug, "message rejected",
          attrs c.message ++ [("reason", reason.name), ("err", f.message)]⟩]) q :=
  s.bring_move c _ q _

/-- The submission of the job of the caller that comes next. -/
def handOver (s : State τ) (job : Job (Ledger τ)) (q : Pool (Task τ)) :
    Pool (Task τ) × Option Fault :=
  let (q, e) := q.submit (some ⟨s.calls.length, job⟩)
  (q, e.map Pool.SubmitError.fault)

theorem handOver_task (s : State τ) (c : Call τ) (p : Program) (q : Pool (Task τ)) :
    handOver s (c.task s.calls.length p).job q =
      ((q.submit (some (c.task s.calls.length p))).1,
        (q.submit (some (c.task s.calls.length p))).2.map Pool.SubmitError.fault) :=
  rfl

/-- What a caller has been told: that its message was accepted, or why not. -/
def Stage.told : Stage → Option (Option Rejection)
  | .accepted _ => some none
  | .rejected r => some (some r)
  | _ => none

/-- Taking a message at one go is what its caller does in steps when nobody comes in between. -/
theorem receive_steps (a : Admission τ) (k : Conduct) (s : State τ) (m : Message)
    (answer : Option (Responder τ)) :
    ∃ m' stage r, (recorded a).receive s.registry (handOver s) m
        (answer.map fun f => Outside.lift (Ledger.record s.calls.length f)) s.outside s.pool = r ∧
      Relation.ReflTransGen (Step a k) s (s.bring ⟨m', answer, stage⟩ r.outside r.pool) ∧
      stage.told = some r.rejection := by
  cases hid : (recorded a).identify m s.outside with
  | mk m' o =>
  have harrive : Step a k s (s.bring ⟨m', answer, .arrived⟩ o s.pool) := .arrive m answer hid
  have hhere (stage : Stage) (o : Outside (Ledger τ)) (q : Pool (Task τ)) :
      (s.bring ⟨m', answer, stage⟩ o q).calls[s.calls.length]? = some ⟨m', answer, stage⟩ :=
    s.bring_getElem? ⟨m', answer, stage⟩ o q
  -- A caller that is turned away now, and one that goes on.
  have hreject {stage : Stage} {o : Outside (Ledger τ)} {q : Pool (Task τ)} {before : State τ}
      (reason : Reason) (f : Fault) (hstep : Step a k before
        ((s.bring ⟨m', answer, stage⟩ o q).reject s.calls.length ⟨m', answer, stage⟩ reason f)) :
      Step a k before (s.bring ⟨m', answer, .rejected ⟨m'.id, m'.program, reason, f⟩⟩
        (o.logged [⟨.debug, "message rejected",
          State.attrs m' ++ [("reason", reason.name), ("err", f.message)]⟩]) q) := by
    rw [State.bring_reject] at hstep
    exact hstep
  have hmove {stage : Stage} {o : Outside (Ledger τ)} {q : Pool (Task τ)} {before : State τ}
      (stage' : Stage) (hstep : Step a k before
        ((s.bring ⟨m', answer, stage⟩ o q).move s.calls.length ⟨m', answer, stage⟩ stage')) :
      Step a k before (s.bring ⟨m', answer, stage'⟩ o q) := by
    rw [State.bring_move] at hstep
    exact hstep
  simp only [Admission.receive, hid, Option.isSome_map]
  cases hresolve : Admission.resolve s.registry m' answer.isSome with
  | error e =>
    have hstep := hreject e.1 e.2 (.unresolved (hhere .arrived o s.pool) rfl hresolve)
    exact ⟨m', _, _, rfl, .head harrive (.single hstep), rfl⟩
  | ok p =>
    have hresolved := hmove (.resolved p) (.resolve (hhere .arrived o s.pool) rfl hresolve)
    cases hclaim : (recorded a).claim m'.id o.shared with
    | mk l claimed =>
    cases claimed with
    | error e =>
      have hstep := hreject (o := { o with shared := l }) e.1 e.2
        (.unclaimed (hhere (.resolved p) o s.pool) rfl hclaim)
      exact ⟨m', _, _, rfl, .head harrive (.head hresolved (.single hstep)), rfl⟩
    | ok u =>
      have hclaimed := hmove (o := { o with shared := l }) (.claimed p)
        (.claim (hhere (.resolved p) o s.pool) rfl hclaim)
      cases hsubmit : s.pool.submit
        (some ((⟨m', answer, .claimed p⟩ : Call τ).task s.calls.length p)) with
      | mk q refusal =>
      have hhand : handOver s ⟨Context.start m' (some p),
          { messageId := m'.id
            responder := answer.map fun f => Outside.lift (Ledger.record s.calls.length f) }, none⟩
          s.pool = (q, refusal.map Pool.SubmitError.fault) :=
        (handOver_task s ⟨m', answer, .claimed p⟩ p s.pool).trans (by rw [hsubmit])
      simp only [hhand]
      cases refusal with
      | none =>
        have hqueued := hmove (o := { o with shared := l }) (q := q) (.queued p)
          (.submit (hhere (.claimed p) { o with shared := l } s.pool) rfl hsubmit)
        have haccepted := hmove (o := Outside.logged [⟨.debug, "message accepted",
          State.attrs m'⟩] { o with shared := l }) (q := q) (.accepted p)
          (.accept (hhere (.queued p) { o with shared := l } q) rfl)
        exact ⟨m', _, _, rfl, .head harrive (.head hresolved (.head hclaimed
          (.head hqueued (.single haccepted)))), rfl⟩
      | some e =>
        have hrefused := hmove (o := { o with shared := l }) (q := q) (.refused e.fault)
          (.refuse (hhere (.claimed p) { o with shared := l } s.pool) rfl hsubmit)
        cases hrelease : (recorded a).release m'.id l with
        | mk l' failed =>
        have hreleased := hreject (o := Outside.logged (State.releaseLogs m' failed)
          { o with shared := l' }) (.ofSubmission e.fault) e.fault
          (.release (hhere (.refused e.fault) { o with shared := l } q) rfl hrelease)
        refine ⟨m', .rejected ⟨m'.id, m'.program, .ofSubmission e.fault, e.fault⟩, _, rfl,
          .head harrive (.head hresolved (.head hclaimed (.head hrefused (.single ?_)))), rfl⟩
        cases failed <;> exact hreleased
/-- What a worker does with a job at one go is running, handing over and ending it in steps. -/
theorem work_steps {s : State τ} {j : Nat} {t : Task τ} (setup : Setup (Ledger τ))
    (ht : s.pool.running[j]? = some t) (hrun : t.job.run = none)
    (hengine : k.engine t.call = setup.engine) (hobserved : k.observed = setup.observed) :
    Relation.ReflTransGen (Step a k) s { s with
      outside := (Service.work setup (fun _ => false) s.pool.canceled t.job s.outside).1
      pool := s.pool.finish j false } := by
  have hj : j < s.pool.running.length := (List.getElem?_eq_some_iff.mp ht).1
  set look : Interrupts := fun _ => if s.pool.canceled then some .canceled else none with hlook
  have hnever (hcanceled : s.pool.canceled = false) : look = .never := by
    funext n
    rw [hlook, hcanceled]
    rfl
  cases hexecute : t.job.execute (k.engine t.call) k.observed look s.outside with
  | mk x o =>
  have hran := Step.run (a := a) ht hrun look hnever hexecute
  have hdelivered : Step a k _ _ := Step.deliver (j := j) (t := t.ran x) (x := x)
    (s := { s with outside := o, pool := s.pool.update j (t.ran x) })
    (List.getElem?_set_self hj) rfl
  have hended : Step a k _ _ := Step.finish (j := j) (t := (t.ran x).handed x o)
    (s := { s with
      outside := (t.ran x).job.deliver x o
      pool := (s.pool.update j (t.ran x)).update j ((t.ran x).handed x o) })
    (List.getElem?_set_self (by rw [Pool.update, List.length_set]; exact hj))
    (by rw [Task.handed, Once.complete_handle])
  have hpool : ((s.pool.update j (t.ran x)).update j ((t.ran x).handed x o)).finish j false =
      s.pool.finish j false := by
    simp only [Pool.finish, Pool.update, List.eraseIdx_set_eq]
  rw [hpool] at hended
  have hwork : (Service.work setup (fun _ => false) s.pool.canceled t.job s.outside).1 =
      (t.ran x).job.deliver x o := by
    rw [hengine, hobserved, hlook] at hexecute
    simp only [Service.work, hexecute]
    rfl
  rw [hwork]
  exact .head hran (.head hdelivered (.single hended))

end Courier.Concurrent
