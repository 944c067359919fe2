import Courier.Pool.Basic
import Courier.Proofs.Run.Request
import Courier.Service.Admission
import Mathlib.Logic.Relation

/-! A service that many use at once, as the steps of all who take part in any order: callers who
bring messages, those who register programs, the workers of the pool, and those who shut it down.
A step is an operation of the service that nothing can come in between of. -/
namespace Courier.Concurrent

variable {τ : Type}

/-- A world, and beside it every call to a responder so far: for which message, and with what. -/
structure Ledger (τ : Type) where
  world : τ
  entries : List (Nat × Result) := []

/-- Calls a responder and puts the call on record. -/
def Ledger.record (i : Nat) (answer : Responder τ) : Responder (Ledger τ) := fun r l =>
  let (w, reply) := answer r l.world
  (⟨w, l.entries ++ [(i, r)]⟩, reply)

/-- Messages are taken as before; whoever takes them does not see the record. -/
def recorded (a : Admission τ) : Admission (Ledger τ) where
  freshId l := let (id, w) := a.freshId l.world; (id, { l with world := w })
  claims := a.claims.map fun (c, ttl) =>
    (c.focus Ledger.world fun w l => { l with world := w }, ttl)

/-- How far a caller has come with its message. Whether it was accepted is settled when the pool has
queued or refused the message, but the caller learns it only later. -/
inductive Stage
  | arrived
  | resolved (p : Program)
  | claimed (p : Program)
  | refused (fault : Fault)
  | queued (p : Program)
  | accepted (p : Program)
  | rejected (r : Rejection)

/-- The program of a message that the pool has taken. -/
def Stage.taken : Stage → Option Program
  | .queued p => some p
  | .accepted p => some p
  | _ => none

/-- A message that was brought to the service, with whom to answer and how far it has come. -/
structure Call (τ : Type) where
  message : Message
  responder : Option (Responder τ)
  stage : Stage := .arrived

/-- A unit of the pool: the job of a message, by the number of the message. -/
structure Task (τ : Type) where
  call : Nat
  job : Job (Ledger τ)

/-- The job that is handed to the pool for a message. -/
def Call.task (c : Call τ) (i : Nat) (p : Program) : Task τ where
  call := i
  job := ⟨Context.start c.message (some p),
    { messageId := c.message.id
      responder := c.responder.map fun answer => Outside.lift (Ledger.record i answer) }, none⟩

/-- The task once its program was run. -/
def Task.ran (t : Task τ) (x : Execution) : Task τ := { t with job := { t.job with run := some x } }

/-- The task once its result was handed to the completion handle. -/
def Task.handed (t : Task τ) (x : Execution) (o : Outside (Ledger τ)) : Task τ :=
  { t with job := { t.job with handle := (t.job.handle.complete x.result o).handle } }

/-- Someone who shuts the pool down: whether the time for that is over, and whether it is done. -/
structure Closing where
  expired : Bool := false
  returned : Bool := false

structure State (τ : Type) where
  registry : Registry := []
  outside : Outside (Ledger τ)
  pool : Pool (Task τ)
  calls : List (Call τ) := []
  closings : List Closing := []

/-- How programs are run: for each message the engine as it is while that message is run, so that
its visitor and its observers may do otherwise in every run. No visitor can exchange what is run. -/
structure Conduct where
  engine : Nat → Engine
  observed : Event → List Log.Entry := fun _ => []
  keeps : ∀ i, (engine i).visitor.Keeps

namespace State

/-- Nothing is registered, and nobody has called. -/
def start (size : Pool.Size) (w : τ) : State τ :=
  { outside := { shared := ⟨w, []⟩ }, pool := { size } }

def share (l : Ledger τ) (s : State τ) : State τ :=
  { s with outside := { s.outside with shared := l } }

def logged (es : List Log.Entry) (s : State τ) : State τ :=
  { s with outside := s.outside.logged es }

def move (i : Nat) (c : Call τ) (stage : Stage) (s : State τ) : State τ :=
  { s with calls := s.calls.set i { c with stage } }

/-- What is logged of a message beside what happened to it. -/
def attrs (m : Message) : List (String × String) := [("message_id", m.id), ("program", m.program)]

/-- What is logged when the claim on a message could not be given back. -/
def releaseLogs (m : Message) : Option Fault → List Log.Entry
  | some f => [⟨.warn, "failed to release claim", attrs m ++ [("err", f.message)]⟩]
  | none => []

def reject (i : Nat) (c : Call τ) (reason : Reason) (f : Fault) (s : State τ) : State τ :=
  (s.logged [⟨.debug, "message rejected",
    attrs c.message ++ [("reason", reason.name), ("err", f.message)]⟩]).move i c
      (.rejected ⟨c.message.id, c.message.program, reason, f⟩)

end State

/-- One step of someone who takes part. A run is one step, taken when it ends: what it has seen of a
call to stop is any sequence of looks, but none sees one before the pool is told to cancel. -/
inductive Step (a : Admission τ) (k : Conduct) : State τ → State τ → Prop
  -- A caller brings a message, has it checked and claimed, and hands it to the pool; one that was
  -- refused gives its claim back.
  | arrive {s : State τ} (m : Message) (r : Option (Responder τ)) {m' : Message}
      {o : Outside (Ledger τ)} (h : (recorded a).identify m s.outside = (m', o)) :
      Step a k s { s with outside := o, calls := s.calls ++ [⟨m', r, .arrived⟩] }
  | resolve {s : State τ} {i : Nat} {c : Call τ} {p : Program} (hc : s.calls[i]? = some c)
      (hstage : c.stage = .arrived)
      (h : Admission.resolve s.registry c.message c.responder.isSome = .ok p) :
      Step a k s (s.move i c (.resolved p))
  | unresolved {s : State τ} {i : Nat} {c : Call τ} {reason : Reason} {f : Fault}
      (hc : s.calls[i]? = some c) (hstage : c.stage = .arrived)
      (h : Admission.resolve s.registry c.message c.responder.isSome = .error (reason, f)) :
      Step a k s (s.reject i c reason f)
  | claim {s : State τ} {i : Nat} {c : Call τ} {p : Program} {l : Ledger τ}
      (hc : s.calls[i]? = some c) (hstage : c.stage = .resolved p)
      (h : (recorded a).claim c.message.id s.outside.shared = (l, .ok ())) :
      Step a k s ((s.share l).move i c (.claimed p))
  | unclaimed {s : State τ} {i : Nat} {c : Call τ} {p : Program} {l : Ledger τ} {reason : Reason}
      {f : Fault} (hc : s.calls[i]? = some c) (hstage : c.stage = .resolved p)
      (h : (recorded a).claim c.message.id s.outside.shared = (l, .error (reason, f))) :
      Step a k s ((s.share l).reject i c reason f)
  | submit {s : State τ} {i : Nat} {c : Call τ} {p : Program} {q : Pool (Task τ)}
      (hc : s.calls[i]? = some c) (hstage : c.stage = .claimed p)
      (h : s.pool.submit (some (c.task i p)) = (q, none)) :
      Step a k s (({ s with pool := q } : State τ).move i c (.queued p))
  | refuse {s : State τ} {i : Nat} {c : Call τ} {p : Program} {q : Pool (Task τ)}
      {e : Pool.SubmitError} (hc : s.calls[i]? = some c) (hstage : c.stage = .claimed p)
      (h : s.pool.submit (some (c.task i p)) = (q, some e)) :
      Step a k s (({ s with pool := q } : State τ).move i c (.refused e.fault))
  | release {s : State τ} {i : Nat} {c : Call τ} {f : Fault} {l : Ledger τ} {failed : Option Fault}
      (hc : s.calls[i]? = some c) (hstage : c.stage = .refused f)
      (h : (recorded a).release c.message.id s.outside.shared = (l, failed)) :
      Step a k s (((s.share l).logged (State.releaseLogs c.message failed)).reject i c
        (.ofSubmission f) f)
  | accept {s : State τ} {i : Nat} {c : Call τ} {p : Program} (hc : s.calls[i]? = some c)
      (hstage : c.stage = .queued p) :
      Step a k s ((s.logged [⟨.debug, "message accepted", State.attrs c.message⟩]).move i c
        (.accepted p))
  -- Programs come and go while messages are under way, and the world goes on, such as its clock.
  | register {s : State τ} {p : Option Program} {r : Registry} (h : s.registry.register p = .ok r) :
      Step a k s { s with registry := r }
  | unregister {s : State τ} (name : String) :
      Step a k s { s with registry := s.registry.unregister name }
  | elapse {s : State τ} (w : τ) : Step a k s (s.share { s.outside.shared with world := w })
  -- A worker takes a unit, runs it, hands over its result and is done with it. It may hand over
  -- more than once, but not less.
  | take {s : State τ} {t : Task τ} {q : Pool (Task τ)} (h : s.pool.start? = some (t, q)) :
      Step a k s { s with pool := q }
  | run {s : State τ} {j : Nat} {t : Task τ} {x : Execution} {o : Outside (Ledger τ)}
      (ht : s.pool.running[j]? = some t) (hrun : t.job.run = none) (look : Interrupts)
      (hlook : s.pool.canceled = false → look = .never)
      (h : t.job.execute (k.engine t.call) k.observed look s.outside = (x, o)) :
      Step a k s { s with outside := o, pool := s.pool.update j (t.ran x) }
  | deliver {s : State τ} {j : Nat} {t : Task τ} {x : Execution} (ht : s.pool.running[j]? = some t)
      (hrun : t.job.run = some x) :
      Step a k s { s with
        outside := t.job.deliver x s.outside
        pool := s.pool.update j (t.handed x s.outside) }
  | finish {s : State τ} {j : Nat} {t : Task τ} (ht : s.pool.running[j]? = some t)
      (hdone : t.job.handle.completed = true) :
      Step a k s { s with pool := s.pool.finish j false }
  -- Several may shut the pool down, each with a time of its own. They return when it is empty.
  | close {s : State τ} :
      Step a k s { s with pool := s.pool.close, closings := s.closings ++ [({} : Closing)] }
  | expire {s : State τ} {j : Nat} {z : Closing} (hz : s.closings[j]? = some z)
      (hopen : z.returned = false) :
      Step a k s { s with
        pool := s.pool.cancel
        closings := s.closings.set j { z with expired := true } }
  | drained {s : State τ} {j : Nat} {z : Closing} (hz : s.closings[j]? = some z)
      (hopen : z.returned = false) (hidle : s.pool.isIdle = true) :
      Step a k s { s with
        pool := s.pool.terminate
        closings := s.closings.set j { z with returned := true } }

/-- A state that some order of steps leads to from the start. -/
def Reachable (a : Admission τ) (k : Conduct) (s : State τ) : Prop :=
  ∃ size w, Relation.ReflTransGen (Step a k) (.start size w) s

theorem Reachable.start (a : Admission τ) (k : Conduct) (size : Pool.Size) (w : τ) :
    Reachable a k (State.start size w) :=
  ⟨size, w, .refl⟩

theorem Reachable.step {a : Admission τ} {k : Conduct} {s s' : State τ} (h : Reachable a k s)
    (hstep : Step a k s s') : Reachable a k s' := by
  obtain ⟨size, w, hrun⟩ := h
  exact ⟨size, w, hrun.tail hstep⟩

end Courier.Concurrent
