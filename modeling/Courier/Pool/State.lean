/-!
The life of a worker pool.
-/

namespace Courier.Pool

/-- A pool only moves forward through these. -/
inductive State
  | uninitialized | active | shuttingDown | terminated
  deriving DecidableEq

namespace State

def name : State → String
  | .uninitialized => "uninitialized"
  | .active => "active"
  | .shuttingDown => "shutting_down"
  | .terminated => "terminated"

def rank : State → Nat
  | .uninitialized => 0
  | .active => 1
  | .shuttingDown => 2
  | .terminated => 3

/-- The state of a number, for the numbers that have one. -/
def ofRank? : Int → Option State
  | 0 => some .uninitialized
  | 1 => some .active
  | 2 => some .shuttingDown
  | 3 => some .terminated
  | _ => none

/-- The name of the state of a number. -/
def nameOfRank (n : Int) : String :=
  match ofRank? n with
  | some s => s.name
  | none => "unknown"

end State
end Courier.Pool
