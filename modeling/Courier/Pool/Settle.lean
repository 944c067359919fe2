import Courier.Pool.Lazy

/-!
Letting a pool work until it can go no further: every unit is finished, waits for something outside,
or is queued behind workers that all wait.
-/

namespace Courier.Pool

/-- What becomes of a unit that is given time: it waits, maybe further on, or it ends. -/
inductive Progress (α : Type)
  | waits (u : α)
  | ended (panicked : Bool)

/-- What a unit does with the time it is given, told whether it should stop. -/
abbrev Work (α σ : Type) := (stop : Bool) → α → σ → σ × Progress α

variable {α σ : Type}

/-- Takes note of what became of the unit at a place. -/
def note (i : Nat) (p : Pool α) : Progress α → Pool α
  | .waits u => p.update i u
  | .ended panicked => p.finish i panicked

/-- Gives time to the running units from a place on; as many as are counted. -/
def goOn (work : Work α σ) : Nat → Nat → Pool α → σ → Pool α × σ
  | 0, _, p, s => (p, s)
  | n + 1, i, p, s =>
    match p.running[i]? with
    | none => (p, s)
    | some u =>
      match work p.canceled u s with
      | (s, .waits u) => goOn work n (i + 1) (p.update i u) s
      | (s, .ended b) => goOn work n i (p.finish i b) s

/-- Lets free workers take units; as many as are counted. -/
def drain (work : Work α σ) : Nat → Pool α → σ → Pool α × σ
  | 0, p, s => (p, s)
  | n + 1, p, s =>
    match p.start? with
    | none => (p, s)
    | some (u, q) =>
      let (s, made) := work q.canceled u s
      drain work n (note p.running.length q made) s

/-- Works until nothing more can be done. -/
def settle (work : Work α σ) (p : Pool α) (s : σ) : Pool α × σ :=
  let (p, s) := goOn work p.running.length 0 p s
  let (p, s) := drain work p.queue.length p s
  (p.terminate, s)

/-- The same behind a handle. -/
def Lazy.settle (work : Work α σ) (l : Lazy α) (s : σ) : Lazy α × σ :=
  match l.pool with
  | none => (l, s)
  | some p => let (p, s) := p.settle work s; ({ l with pool := some p }, s)

end Courier.Pool
