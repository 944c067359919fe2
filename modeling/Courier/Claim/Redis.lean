import Courier.Claim.Basic
import Courier.Store.Redis

/-!
Claims as keys of a Redis server.
-/

namespace Courier

/-- Where in a server claims are kept. -/
structure RedisClaimer where
  keyStart : String

namespace RedisClaimer

def key (c : RedisClaimer) (id : String) : String := c.keyStart ++ "claim:" ++ id

def claim (c : RedisClaimer) (id : String) (ttl : Int) (r : Redis) : Redis × Except Fault Bool :=
  match r.fault? [if 0 < ttl then "SET" else "SETNX"] with
  | some f => (r, .error (f.within "redis error claiming message: "))
  | none =>
    if (r.get? (c.key id)).isSome then (r, .ok false)
    else (r.set (c.key id) "0" ttl, .ok true)

def release (c : RedisClaimer) (id : String) (r : Redis) : Redis × Option Fault :=
  match r.fault? ["DEL"] with
  | some f => (r, some f)
  | none => (r.del (c.key id), none)

def claimer (c : RedisClaimer) : Claimer Redis where
  claim := c.claim
  release := c.release

end RedisClaimer
end Courier
