import Courier.Result.Json
import Courier.Store.Basic

/-!
Results kept in a Redis server. The server is a map from keys to texts, some of which expire, and to
sets of members ordered by a score. A result is a text under its message id; an index set holds the
ids, scored by the time at which they expire.
-/

namespace Courier

/-- A Redis server: its clock in nanoseconds, by which keys expire; the wall clock of its clients in
seconds, with the nanoseconds of the second that has begun; and the commands that are made to fail,
with the text they fail with. -/
structure Redis where
  clock : Int := 0
  wall : Int := 0
  fraction : Int := 0
  texts : Keyed (String × Option Int) := []
  sets : Keyed (List (Int × String)) := []
  broken : Option (String × String) := none

namespace Redis

/-- The fault of a group of commands, if one of them is made to fail. -/
def fault? (r : Redis) (commands : List String) : Option Fault :=
  match r.broken with
  | some (command, text) =>
    if command = "" ∨ commands.contains command then some ⟨text, []⟩ else none
  | none => none

/-- Whether an expiry is still ahead. -/
def isLive (r : Redis) (expiry : Option Int) : Bool :=
  match expiry with
  | some t => r.clock < t
  | none => true

def get? (r : Redis) (key : String) : Option String :=
  match Keyed.get? r.texts key with
  | some (t, e) => if r.isLive e then some t else none
  | none => none

/-- How long a text lives: for ever without a positive time, in whole milliseconds otherwise. -/
def expiryOf (r : Redis) (ttl : Int) : Option Int :=
  if ttl ≤ 0 then none
  else if ttl % 1000000000 = 0 then some (r.clock + ttl)
  else if ttl < 1000000 then some (r.clock + 1000000)
  else some (r.clock + ttl / 1000000 * 1000000)

def set (r : Redis) (key value : String) (ttl : Int) : Redis :=
  { r with texts := Keyed.insert key (value, r.expiryOf ttl) r.texts }

def del (r : Redis) (key : String) : Redis := { r with texts := Keyed.erase key r.texts }

/-- Inserts a scored member in its place: by score, then by text. -/
def insertMember (score : Int) (member : String) : List (Int × String) → List (Int × String)
  | [] => [(score, member)]
  | (s, m) :: rest =>
    if score < s ∨ (score = s ∧ Text.before member m) then (score, member) :: (s, m) :: rest
    else (s, m) :: insertMember score member rest

def members (r : Redis) (key : String) : List (Int × String) := (Keyed.get? r.sets key).getD []

/-- Replaces a set; one without members is no key at all. -/
def putMembers (r : Redis) (key : String) (ms : List (Int × String)) : Redis :=
  { r with sets := if ms.isEmpty then Keyed.erase key r.sets else Keyed.insert key ms r.sets }

def zadd (r : Redis) (key : String) (score : Int) (member : String) : Redis :=
  r.putMembers key (insertMember score member ((r.members key).filter fun m => m.2 ≠ member))

def zrem (r : Redis) (key member : String) : Redis :=
  r.putMembers key ((r.members key).filter fun m => m.2 ≠ member)

/-- Removes the members with a score below a bound. -/
def prune (r : Redis) (key : String) (bound : Int) : Redis :=
  r.putMembers key ((r.members key).filter fun m => bound ≤ m.1)

/-- All keys in increasing order. -/
def keys (r : Redis) : List String :=
  Text.sort ((r.texts.filter fun e => r.isLive e.2.2).map Prod.fst ++ Keyed.keys r.sets)

/-- The rest of a text's life in nanoseconds; zero when it does not expire. -/
def remaining (r : Redis) (key : String) : Int :=
  match Keyed.get? r.texts key with
  | some (_, some t) => if r.clock < t then t - r.clock else 0
  | _ => 0

def forward (r : Redis) (nanos : Int) : Redis := { r with clock := r.clock + nanos }

def ping (r : Redis) : Option Fault := r.fault? ["PING"]

end Redis

/-- Where in a server results are kept, and for how long. -/
structure RedisStore where
  keyStart : String := "weft:result:"
  ttl : Int := 0

namespace RedisStore

def key (c : RedisStore) (id : String) : String := c.keyStart ++ "r:" ++ id

def indexKey (c : RedisStore) : String := c.keyStart ++ "index"

/-- The score of results that never expire. -/
def endless : Int := 9007199254740991

/-- The second in which a result expires that is saved now. -/
def score (c : RedisStore) (r : Redis) : Int :=
  if 0 < c.ttl then r.wall + (r.fraction + c.ttl) / 1000000000 else endless

def save (c : RedisStore) (result : Result) (r : Redis) : Redis × Option Fault :=
  if result.messageId = "" then (r, some ⟨"redis: result without message id", []⟩)
  else
    match result.encode with
    | .error e => (r, some ⟨"failed to marshal result: " ++ e.message, []⟩)
    | .ok text =>
      match r.fault? ["MULTI", "SET", "ZADD", "EXEC"] with
      | some f => (r, some (f.within "redis save failed: "))
      | none =>
        ((r.set (c.key result.messageId) text c.ttl).zadd c.indexKey (c.score r) result.messageId,
          none)

def load (c : RedisStore) (id : String) (r : Redis) : Redis × Except Fault Result :=
  match r.fault? ["GET"] with
  | some f => (r, .error (f.within "redis load failed: "))
  | none =>
    match r.get? (c.key id) with
    | none => (r, .error resultNotFound)
    | some text =>
      match Result.decode? text with
      | some result => (r, .ok result)
      | none => (r, .error ⟨"failed to unmarshal result " ++ id ++ ": not a result", []⟩)

def delete (c : RedisStore) (id : String) (r : Redis) : Redis × Option Fault :=
  match r.fault? ["MULTI", "DEL", "ZREM", "EXEC"] with
  | some f => (r, some (f.within "redis delete failed: "))
  | none => ((r.del (c.key id)).zrem c.indexKey id, none)

/-- The ids in the index, after those that have expired are dropped. -/
def list (c : RedisStore) (r : Redis) : Redis × Except Fault (List String) :=
  match r.fault? ["ZREMRANGEBYSCORE"] with
  | some f => (r, .error (f.within "redis index prune failed: "))
  | none =>
    let r := r.prune c.indexKey r.wall
    match r.fault? ["ZRANGE"] with
    | some f => (r, .error (f.within "redis list failed: "))
    | none => (r, .ok ((r.members c.indexKey).map Prod.snd))

def store (c : RedisStore) : ResultStore Redis where
  save := c.save
  load := c.load
  delete := c.delete
  list := c.list

end RedisStore
end Courier
