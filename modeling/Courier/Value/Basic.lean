import Courier.Keyed
import Courier.Number.Binary
import Courier.Time.Instant

/-!
Dynamic values: what a message payload, a literal or a binding can hold. Integers keep the kind they
were made with; a record has text keys in increasing order; a table has arbitrary keys in the order
of `Value.keyBefore`.
-/

namespace Courier

/-- The kinds of integers, by sign and width. -/
inductive IntKind
  | int | int8 | int16 | int32 | int64
  | uint | uint8 | uint16 | uint32 | uint64
  deriving DecidableEq

def IntKind.name : IntKind → String
  | .int => "int"
  | .int8 => "int8"
  | .int16 => "int16"
  | .int32 => "int32"
  | .int64 => "int64"
  | .uint => "uint"
  | .uint8 => "uint8"
  | .uint16 => "uint16"
  | .uint32 => "uint32"
  | .uint64 => "uint64"

inductive Value
  | null
  | bool (b : Bool)
  | text (s : String)
  | int (kind : IntKind) (n : Int)
  | float (x : Binary)
  | single (x : Binary)
  | bytes (bs : List UInt8)
  | texts (ss : List String)
  | list (vs : List Value)
  | record (fields : List (String × Value))
  | table (entries : List (Value × Value))
  | time (t : Instant)
  deriving Inhabited

namespace Value

/-- An integer of the default kind. -/
def ofInt (n : Int) : Value := .int .int n

def ofFields (fields : List (String × Value)) : Value := .record (Keyed.ofList fields)

def isNull : Value → Bool
  | .null => true
  | _ => false

/-- A number of any kind as a double. -/
def toDouble? : Value → Option Binary
  | .int _ n => some (Binary.ofInt .double n)
  | .float x => some x
  | .single x => some x
  | _ => none

/-- Where a kind of value stands among table keys. -/
def keyRank : Value → Nat
  | .null => 0
  | .bool _ => 1
  | .int .. => 2
  | .float _ => 3
  | .single _ => 4
  | .text _ => 5
  | .time _ => 6
  | _ => 7

/-- The order of table keys: first by kind, then false before true, numbers by value and texts by
code point. -/
def keyBefore (a b : Value) : Bool :=
  match a, b with
  | .bool x, .bool y => !x && y
  | .int _ m, .int _ n => m < n
  | .float x, .float y => x.lt y
  | .single x, .single y => x.lt y
  | .text s, .text t => Text.before s t
  | .time s, .time t => s.seconds < t.seconds || (s.seconds = t.seconds && s.nanos < t.nanos)
  | a, b => a.keyRank < b.keyRank

/-- Sets the value under a key of a table, in its place. -/
def insertEntry (key value : Value) : List (Value × Value) → List (Value × Value)
  | [] => [(key, value)]
  | (k, v) :: m =>
    if key.keyBefore k then (key, value) :: (k, v) :: m
    else if k.keyBefore key then (k, v) :: insertEntry key value m
    else (key, value) :: m

/-- The table of a list of entries; of several under one key the last one stays. -/
def ofEntries (entries : List (Value × Value)) : Value :=
  .table (entries.foldl (fun m e => insertEntry e.1 e.2 m) [])

/-- The name of a value's type in messages. -/
def typeName : Value → String
  | .null => "<nil>"
  | .bool _ => "bool"
  | .text _ => "string"
  | .int k _ => k.name
  | .float _ => "float64"
  | .single _ => "float32"
  | .bytes _ => "[]uint8"
  | .texts _ => "[]string"
  | .list _ => "[]interface \x7b\x7d"
  | .record _ => "map[string]interface \x7b\x7d"
  | .table _ => "map[interface \x7b\x7d]interface \x7b\x7d"
  | .time _ => "time.Time"

end Value
end Courier
