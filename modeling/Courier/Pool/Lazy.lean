import Courier.Pool.Basic

/-!
A pool that is built when it is first used. Closing it before that builds none.
-/

namespace Courier.Pool

/-- A handle on a pool: whether its one chance to be built is spent, the pool if it was built, and
whether the handle is closed. -/
structure Lazy (α : Type) where
  size : Size
  spent : Bool := false
  closed : Bool := false
  pool : Option (Pool α) := none

namespace Lazy

variable {α : Type}

/-- Spends the chance to build; a closed handle builds nothing. -/
def build (l : Lazy α) : Lazy α :=
  if l.spent then l
  else { l with spent := true, pool := if l.closed then none else some { size := l.size } }

/-- The pool, built if need be. -/
def get (l : Lazy α) : Lazy α × Except SubmitError (Pool α) :=
  let l := l.build
  (l, match l.pool with
    | some p => .ok p
    | none => .error .closed)

def submit (l : Lazy α) (u : Option α) : Lazy α × Option SubmitError :=
  let l := l.build
  match l.pool with
  | none => (l, some .closed)
  | some p => let (p, e) := p.submit u; ({ l with pool := some p }, e)

def state (l : Lazy α) : State :=
  match l.pool with
  | some p => p.state
  | none => if l.closed then .terminated else .uninitialized

def stats (l : Lazy α) : Stats :=
  match l.pool with
  | some p => p.stats
  | none => ⟨l.state, 0, 0, 0, 0⟩

def counters (l : Lazy α) : Counters :=
  match l.pool with
  | some p => p.counters
  | none => {}

/-- Closes the handle and the pool behind it. -/
def close (l : Lazy α) : Lazy α :=
  { l with closed := true, spent := true, pool := l.pool.map Pool.close }

def cancel (l : Lazy α) : Lazy α := { l with pool := l.pool.map Pool.cancel }

/-- Nothing waits and nothing runs. -/
def isIdle (l : Lazy α) : Bool :=
  match l.pool with
  | some p => p.isIdle
  | none => true

/-- What is logged when a handle goes from one state to another. -/
def stateLogs (before after : Lazy α) : List Log.Entry :=
  match before.pool, after.pool with
  | none, some p => startLog p.size :: Pool.stateLogs { size := p.size } p
  | some p, some q => Pool.stateLogs p q
  | _, none => []

end Lazy
end Courier.Pool
