import Courier.Config.Basic
import Courier.Json.Access
import Courier.Pool.Basic
import Courier.Run.Execute

/-!
Dumps of what a run tells its observers and its tracer, of pools and of settings.
-/

namespace Courier

open Json (textPair intPair textsPair)

def Event.dump : Event → Json
  | .requestStart m p => .ofTexts ["request_start", m, p]
  | .nodeVisit m p n k s step =>
    .list [.text "node_visit", .text m, .text p, .ofInt n, .text k.name, .text s, .ofInt step]
  | .requestComplete m p r => .ofTexts ["request_complete", m, p, r.status.text]

def SpanCall.dump : SpanCall → Json
  | .start name attrs => .list [.text "start", .text name, .ofTexts attrs]
  | .event name attrs => .list [.text "event", .text name, .ofTexts attrs]
  | .error text => .ofTexts ["error", text]
  | .status ok text => .ofTexts ["status", if ok then "Ok" else "Error", text]
  | .attributes attrs => .list [.text "attributes", .ofTexts attrs]
  | .finish => .ofTexts ["end"]

def Pool.Stats.dump (s : Pool.Stats) : List (String × Json) :=
  [textPair "state" s.state.name, intPair "workers" s.workers, intPair "queue_capacity" s.capacity,
    intPair "queued" s.queued, intPair "in_flight" s.inFlight]

/-- The members of dumped settings; durations are in nanoseconds, and a number of workers that was
left open is `default`. -/
def Config.dump (c : Config) : List (String × Json) :=
  let nanos (name : String) (n : Int) : String × Json := textPair name (toString n)
  [("workers", match c.workers with
      | some n => .ofInt n
      | none => .text "default"),
    intPair "queue_capacity" c.queueCapacity, intPair "max_steps" c.maxSteps,
    textPair "programs" c.programsDir, textPair "addr" c.addr, textPair "log_level" c.logLevel,
    nanos "wait_timeout" c.waitTimeout, nanos "dedup_ttl" c.dedupTtl,
    ("redis", .object [textPair "addr" c.redis.addr, textPair "password" c.redis.password,
      intPair "db" c.redis.db, textPair "prefix" c.redis.keyStart, nanos "ttl" c.redis.ttl]),
    ("results", .object [textPair "encryption_key" c.results.encryptionKey,
      ("fallback_keys", .ofOption .ofTexts c.results.fallbackKeys),
      ("pii_patterns", .ofOption .ofTexts c.results.piiPatterns)])]

end Courier
