import Courier.Claim.Redis
import Courier.Store.Layers
import Courier.Store.Memory

/-!
Everything a running service keeps outside itself: results and claims, in memory or in a Redis server,
and a number from which fresh ids and nonces are drawn.
-/

namespace Courier

structure Depot where
  memory : MemoryStore := []
  claims : MemoryClaims := {}
  redis : Redis := {}
  draws : Nat := 0

namespace Depot

def memoryStore : ResultStore Depot :=
  MemoryStore.store.focus (·.memory) fun m d => { d with memory := m }

def redisStore (c : RedisStore) : ResultStore Depot :=
  c.store.focus (·.redis) fun r d => { d with redis := r }

def memoryClaimer : Claimer Depot :=
  MemoryClaims.claimer.focus (·.claims) fun c d => { d with claims := c }

def redisClaimer (c : RedisClaimer) : Claimer Depot :=
  c.claimer.focus (·.redis) fun r d => { d with redis := r }

/-- Time goes by for claims and for the server. -/
def advance (nanos : Int) (d : Depot) : Depot :=
  { d with claims := d.claims.advance nanos, redis := d.redis.forward nanos }

/-- A nonce that was not drawn before. -/
def nonce (d : Depot) : List UInt8 × Depot :=
  (Gcm.toBytes 12 d.draws, { d with draws := d.draws + 1 })

/-- Hexadecimal digits of a number, as many as asked. -/
def hex (width n : Nat) : String := String.ofList (Text.hexDigits width n)

/-- A random-looking identifier in the usual layout of five groups. -/
def uuidOf (n : Nat) : String :=
  hex 8 (n / Nat.pow 2 88) ++ "-" ++ hex 4 (n / Nat.pow 2 72) ++ "-4" ++ hex 3 (n / Nat.pow 2 60) ++
    "-8" ++ hex 3 (n / Nat.pow 2 48) ++ "-" ++ hex 12 n

/-- An identifier that was not drawn before. -/
def uuid (d : Depot) : String × Depot := (uuidOf d.draws, { d with draws := d.draws + 1 })

end Depot
end Courier
