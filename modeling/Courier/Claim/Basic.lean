import Courier.Keyed
import Courier.Mark

/-!
Claims on message ids: a message is taken by whoever claims its id first, until the claim expires or is
released.
-/

namespace Courier

/-- Claiming and releasing ids, for a time in nanoseconds; a claim without a positive time never
expires. -/
structure Claimer (σ : Type) where
  claim : String → Int → σ → σ × Except Fault Bool
  release : String → σ → σ × Option Fault

namespace Claimer

/-- A claimer on one part of a larger state. -/
def focus {σ τ : Type} (get : σ → τ) (put : τ → σ → σ) (c : Claimer τ) : Claimer σ where
  claim id ttl s := let (t, r) := c.claim id ttl (get s); (put t s, r)
  release id s := let (t, f) := c.release id (get s); (put t s, f)

end Claimer

/-- Claims in memory: the clock, and for each claimed id when its claim expires. -/
structure MemoryClaims where
  now : Int := 0
  claims : Keyed (Option Int) := []

namespace MemoryClaims

/-- Whether an id is taken. -/
def holds (c : MemoryClaims) (id : String) : Bool :=
  match Keyed.get? c.claims id with
  | some (some t) => c.now < t
  | some none => true
  | none => false

def claim (id : String) (ttl : Int) (c : MemoryClaims) : MemoryClaims × Bool :=
  if c.holds id then (c, false)
  else
    let expiry := if 0 < ttl then some (c.now + ttl) else none
    ({ c with claims := Keyed.insert id expiry c.claims }, true)

def release (id : String) (c : MemoryClaims) : MemoryClaims :=
  { c with claims := Keyed.erase id c.claims }

def advance (nanos : Int) (c : MemoryClaims) : MemoryClaims := { c with now := c.now + nanos }

def claimer : Claimer MemoryClaims where
  claim id ttl c := let (c, ok) := c.claim id ttl; (c, .ok ok)
  release id c := (c.release id, none)

end MemoryClaims
end Courier
