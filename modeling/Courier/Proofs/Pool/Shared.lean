import Courier.Proofs.Pool.Operations
import Mathlib.Data.List.Nodup
import Mathlib.Logic.Relation

/-! A pool that many use at once, as the steps of all who take part in any order: callers who bring
units, the workers, and those who shut the pool down.
A caller looks at the state of the pool, and only later queues its unit. In between others go on;
the lock that it holds keeps out only those who close the pool. -/
namespace Courier.Pool

variable {α : Type}

/-- Queues or refuses a unit as one does who has seen the pool in a state that may have passed. -/
def submitSeeing (seen : State) (u : α) (p : Pool α) : Pool α × Option SubmitError :=
  let (q, reply) := ({ p with state := seen } : Pool α).submit (some u)
  ({ q with state := p.state }, reply)

/-- It is enough to have seen whether the pool is active. -/
theorem submitSeeing_eq {seen : State} {p : Pool α} (h : seen = .active ↔ p.state = .active)
    (u : α) : p.submitSeeing seen u = p.submit (some u) := by
  by_cases hactive : p.state = .active
  · rw [submitSeeing, h.mpr hactive, ← hactive]
    simp only [submit]
    split_ifs <;> rfl
  · have hseen : seen ≠ .active := mt h.mp hactive
    simp only [submitSeeing, submit, ne_eq, hseen, hactive, not_false_eq_true, ↓reduceIte]

/-- A unit, by the number of the call that brought it, and whether a worker has begun to run it. -/
structure Ticket where
  call : Nat
  begun : Bool := false

/-- How far a call has come: it waits for the lock, has the lock and has seen the state of the pool,
has its answer, or has given the lock back with that answer. -/
inductive Stage
  | waiting
  | inside (seen : State)
  | answered (reply : Option SubmitError)
  | returned (reply : Option SubmitError)

def Stage.locks : Stage → Bool
  | .inside _ => true
  | .answered _ => true
  | _ => false

def Stage.reply : Stage → Option (Option SubmitError)
  | .answered r => some r
  | .returned r => some r
  | _ => none

/-- A call that brings a unit, or brings none by mistake. -/
structure Submission where
  given : Bool
  stage : Stage := .waiting

namespace Submission

def accepted (c : Submission) : Bool := c.stage.reply = some none

/-- There was a unit, and it was refused. -/
def refused (c : Submission) : Bool :=
  match c.given, c.stage.reply with
  | true, some (some _) => true
  | _, _ => false

end Submission

/-- A pool with all who use it: the calls so far, each run of a unit and each end of one by the
number of the call, how many workers have gone home, and how many of those who shut the pool down
still wait and how many have returned. -/
structure Shared where
  pool : Pool Ticket
  calls : List Submission := []
  begun : List Nat := []
  finished : List Nat := []
  exited : Nat := 0
  closers : Nat := 0
  returned : Nat := 0

namespace Shared

def start (size : Size) : Shared := { pool := { size } }

/-- The workers at work: one receives a unit, begins to run it, and is done with it when the run
ends or crashes. -/
inductive Work : Shared → Shared → Prop
  | receive {s : Shared} {t : Ticket} {q : Pool Ticket} (h : s.pool.start? = some (t, q)) :
      Work s { s with pool := q }
  | begin {s : Shared} {j : Nat} {t : Ticket} (ht : s.pool.running[j]? = some t)
      (hfresh : t.begun = false) :
      Work s { s with
        pool := s.pool.update j { t with begun := true }
        begun := s.begun ++ [t.call] }
  | finish {s : Shared} {j : Nat} {t : Ticket} (ht : s.pool.running[j]? = some t)
      (hbegun : t.begun = true) (panicked : Bool) :
      Work s { s with pool := s.pool.finish j panicked, finished := s.finished ++ [t.call] }

/-- One step of someone who takes part. -/
inductive Step : Shared → Shared → Prop
  | work {s s' : Shared} (h : Work s s') : Step s s'
  -- A worker that is free goes home when the queue is closed and empty.
  | exit {s : Shared} (hclosed : s.pool.state ≠ .active) (hempty : s.pool.queue = [])
      (hfree : s.pool.running.length + s.exited < s.pool.size.workers) :
      Step s { s with exited := s.exited + 1 }
  -- A call without a unit is refused before it takes the lock.
  | call {s : Shared} (given : Bool) : Step s { s with calls := s.calls ++ [{ given }] }
  | missing {s : Shared} {i : Nat} {q : Pool Ticket} {reply : Option SubmitError}
      (hc : s.calls[i]? = some ⟨false, .waiting⟩) (h : s.pool.submit none = (q, reply)) :
      Step s { s with pool := q, calls := s.calls.set i ⟨false, .returned reply⟩ }
  | enter {s : Shared} {i : Nat} (hc : s.calls[i]? = some ⟨true, .waiting⟩) :
      Step s { s with calls := s.calls.set i ⟨true, .inside s.pool.state⟩ }
  | answer {s : Shared} {i : Nat} {seen : State} {q : Pool Ticket} {reply : Option SubmitError}
      (hc : s.calls[i]? = some ⟨true, .inside seen⟩)
      (h : s.pool.submitSeeing seen { call := i } = (q, reply)) :
      Step s { s with pool := q, calls := s.calls.set i ⟨true, .answered reply⟩ }
  | leave {s : Shared} {i : Nat} {reply : Option SubmitError}
      (hc : s.calls[i]? = some ⟨true, .answered reply⟩) :
      Step s { s with calls := s.calls.set i ⟨true, .returned reply⟩ }
  -- Whoever shuts the pool down waits until nobody has the lock, closes the pool, and returns when
  -- all workers have gone home. The last move is made without the lock.
  | close {s : Shared} (hfree : ∀ c ∈ s.calls, c.stage.locks = false) :
      Step s { s with pool := s.pool.close, closers := s.closers + 1 }
  | expire {s : Shared} (hcloser : 0 < s.closers) : Step s { s with pool := s.pool.cancel }
  | depart {s : Shared} (hcloser : 0 < s.closers) (hdone : s.exited = s.pool.size.workers) :
      Step s { s with
        pool := s.pool.terminate
        closers := s.closers - 1
        returned := s.returned + 1 }

/-- A state that some order of steps leads to from a new pool. -/
def Reachable (size : Size) (s : Shared) : Prop := Relation.ReflTransGen Step (start size) s

end Shared
end Courier.Pool
