import Courier.Config.Basic
import Courier.Log.Level
import Courier.Service.Host
import Courier.Pattern.Reader

/-!
A service put together from settings: where results are kept and how they are protected, whether
messages are claimed, and what an observer logs.
-/

namespace Courier

namespace ResultsConfig

/-- The keys that results are sealed under. -/
def keys (c : ResultsConfig) : Except Fault Sealing.Keys := do
  let read (what s : String) : Except Fault (List UInt8) :=
    (Sealing.decodeKey s).mapError fun e => ⟨what ++ ": " ++ e.message, []⟩
  let active ← read "results.encryption_key" c.encryptionKey
  let older ← (c.fallbackKeys.getD []).zipIdx.mapM fun (k, i) =>
    read ("results.fallback_keys[" ++ toString i ++ "]") k
  return ⟨active, older⟩

/-- The layers in front of the store: results are masked first and sealed then, so that what is
opened again stays masked. -/
def layers (c : ResultsConfig) : Except Fault (List StoreLayer) := do
  let patterns := c.piiPatterns.getD []
  let masked ← if patterns.isEmpty then pure []
    else (Pattern.parseAll patterns).mapError (·.fault) |>.map fun ps => [StoreLayer.masked ps]
  let sealed ← if c.encryptionKey = "" then pure []
    else c.keys.map fun ks => [StoreLayer.sealed ks]
  return masked ++ sealed

end ResultsConfig

/-- A service with all that it was set up with. -/
structure Stack where
  setup : Setup Site
  store : ResultStore Site
  service : Service Site
  usesRedis : Bool

namespace Stack

/-- The failure of a request as an observer shows it. -/
def failureText (f : Failure) : String :=
  "&\x7bKind:" ++ f.kind.text ++ " NodeID:" ++ toString f.nodeId ++ " NodeKind:" ++ f.nodeKind ++
    " Statement:" ++ f.statement ++ " Message:" ++ f.message ++ "\x7d"

/-- What an observer logs about an event. -/
def observed : Event → List Log.Entry
  | .requestStart m p => [⟨.debug, "Request Start", [("message_id", m), ("program", p)]⟩]
  | .nodeVisit m _ n kind statement _ =>
    [⟨.debug, "Visit Node", [("message_id", m), ("node_id", toString n), ("kind", kind.name),
      ("statement", statement)]⟩]
  | .requestComplete m _ r =>
    match r.failure with
    | some f => [⟨.debug, "Request Failed", [("message_id", m), ("failure", failureText f)]⟩]
    | none => [⟨.debug, "Request Complete", [("message_id", m)]⟩]

/-- How results are kept on a Redis server, by the settings. -/
def redisStore (c : RedisConfig) : RedisStore :=
  ⟨if c.keyStart = "" then ({} : RedisConfig).keyStart else c.keyStart, c.ttl⟩

/-- Puts a service together. -/
def ofConfig (processors : Nat) (c : Config) (observing : Bool) (depot : Depot)
    (log : List Log.Entry) : Except Fault Stack := do
  let layers ← c.results.layers
  let usesRedis := c.redis.addr ≠ ""
  let redis := redisStore c.redis
  let base := if usesRedis then Depot.redisStore redis else Depot.memoryStore
  let claimer := if usesRedis then Depot.redisClaimer ⟨redis.keyStart⟩ else Depot.memoryClaimer
  let redisLog := if usesRedis then
    [⟨.info, "using redis result store", [("addr", c.redis.addr), ("db", toString c.redis.db)]⟩] else []
  let layerLog := if layers.isEmpty then [] else
    [⟨.info, "result store middleware enabled",
      [("pii_patterns", toString (c.results.piiPatterns.getD []).length),
        ("encrypted", if c.results.encryptionKey = "" then "false" else "true")]⟩]
  let hook : Option Hook := if observing then some fun _ => none else none
  let claims := if 0 < c.dedupTtl then some (Site.claimer claimer, c.dedupTtl) else none
  let setup : Setup Site :=
    { engine := { hook, maxSteps := Engine.budgetOf c.maxSteps }
      observed
      admission := ⟨Site.freshId, claims⟩ }
  let size := Pool.Size.ofRequest processors (c.workers.getD 0) c.queueCapacity
  return {
    setup
    store := Site.store (StoreLayer.applyAll Depot.nonce layers base)
    service := { pool := { size }, outside := { shared := { depot }, log := log ++ redisLog ++ layerLog } }
    usesRedis }

/-- The fault of reaching the server that keeps results, if there is one. -/
def ping (s : Stack) : Option Fault :=
  if s.usesRedis then s.service.outside.shared.depot.redis.ping else none

def logged (es : List Log.Entry) (s : Stack) : Stack := { s with service := s.service.logged es }

def log (s : Stack) : List Log.Entry := s.service.outside.log

/-- Takes no more messages and finishes what was taken. -/
def close (s : Stack) : Stack :=
  { s with service := s.service.shutdown s.setup fun _ => false }

/-- Finishes what was taken. -/
def settle (s : Stack) : Stack :=
  { s with service := s.service.settle s.setup fun _ => false }

def host (s : Stack) : Host := .ofSetup s.setup fun _ => false

end Stack
end Courier
