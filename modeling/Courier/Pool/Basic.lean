import Courier.Log.Entry
import Courier.Mark
import Courier.Pool.State

/-!
A worker pool: a bounded queue of units in front of a fixed number of workers. Submitting never waits;
what does not fit is refused. Once closed, a pool takes no more units but still runs those it took.
-/

namespace Courier

namespace Pool

/-- How many units run at once and how many may wait. -/
structure Size where
  workers : Nat
  capacity : Nat

/-- The queue of a pool for which none is asked. -/
def defaultCapacity : Nat := 1024

/-- The size asked for; a number that is not positive stands for the default, which for workers is
the number of processors. -/
def Size.ofRequest (processors : Nat) (workers capacity : Int) : Size where
  workers := if 0 < workers then workers.toNat else processors
  capacity := if 0 < capacity then capacity.toNat else defaultCapacity

/-- What a pool has done so far. -/
structure Counters where
  submitted : Nat := 0
  saturated : Nat := 0
  closed : Nat := 0
  completed : Nat := 0
  panics : Nat := 0

/-- Why a unit is refused. -/
inductive SubmitError
  | noUnit | closed | saturated
  deriving DecidableEq

def SubmitError.fault : SubmitError → Fault
  | .noUnit => ⟨"pool: nil unit", []⟩
  | .closed => ⟨"worker pool closed", [.poolClosed]⟩
  | .saturated => ⟨"worker pool saturated", [.saturated]⟩

/-- A view of a pool at one moment. -/
structure Stats where
  state : State
  workers : Nat := 0
  capacity : Nat := 0
  queued : Nat := 0
  inFlight : Nat := 0

end Pool

/-- A pool of units: those that wait, oldest first, those that run, and whether running units are told
to stop. -/
structure Pool (α : Type) where
  size : Pool.Size
  state : Pool.State := .active
  queue : List α := []
  running : List α := []
  canceled : Bool := false
  counters : Pool.Counters := {}

namespace Pool

variable {α : Type}

def stats (p : Pool α) : Stats :=
  ⟨p.state, p.size.workers, p.size.capacity, p.queue.length, p.running.length⟩

/-- Queues a unit, or refuses it: when the pool is closed, else when the queue is full. -/
def submit (p : Pool α) : Option α → Pool α × Option SubmitError
  | none => (p, some .noUnit)
  | some u =>
    if p.state ≠ .active then
      ({ p with counters := { p.counters with closed := p.counters.closed + 1 } }, some .closed)
    else if p.size.capacity ≤ p.queue.length then
      ({ p with counters := { p.counters with saturated := p.counters.saturated + 1 } },
        some .saturated)
    else
      ({ p with
          queue := p.queue ++ [u]
          counters := { p.counters with submitted := p.counters.submitted + 1 } }, none)

/-- A free worker takes the oldest unit. -/
def start? (p : Pool α) : Option (α × Pool α) :=
  match p.queue with
  | [] => none
  | u :: rest =>
    if p.running.length < p.size.workers then
      some (u, { p with queue := rest, running := p.running ++ [u] })
    else none

/-- The unit at a place among the running ones has come further. -/
def update (i : Nat) (u : α) (p : Pool α) : Pool α := { p with running := p.running.set i u }

/-- The unit at a place among the running ones ends; one that crashed counts as completed too. -/
def finish (i : Nat) (panicked : Bool) (p : Pool α) : Pool α :=
  { p with
    running := p.running.eraseIdx i
    counters := { p.counters with
      completed := p.counters.completed + 1
      panics := p.counters.panics + (if panicked then 1 else 0) } }

/-- Takes no more units. -/
def close (p : Pool α) : Pool α :=
  if p.state = .active then { p with state := .shuttingDown } else p

/-- Tells units to stop, when the time for a shutdown is over. -/
def cancel (p : Pool α) : Pool α := { p with canceled := true }

/-- Nothing waits and nothing runs. -/
def isIdle (p : Pool α) : Bool := p.queue.isEmpty && p.running.isEmpty

/-- A closed pool ends when it is idle. -/
def terminate (p : Pool α) : Pool α :=
  if p.state = .shuttingDown ∧ p.isIdle then { p with state := .terminated, canceled := true } else p

/-- What is logged when a pool starts. -/
def startLog (s : Size) : Log.Entry :=
  ⟨.info, "worker pool initialized",
    [("workers", toString s.workers), ("queue_capacity", toString s.capacity)]⟩

/-- What is logged when a pool goes from one state to another. -/
def stateLogs (before after : Pool α) : List Log.Entry :=
  (if before.state = .active ∧ after.state ≠ .active then
    [⟨.info, "worker pool shutting down", [("queued", toString before.queue.length)]⟩] else []) ++
  (if before.state ≠ .terminated ∧ after.state = .terminated then
    [⟨.info, "worker pool terminated", []⟩] else [])

end Pool
end Courier
