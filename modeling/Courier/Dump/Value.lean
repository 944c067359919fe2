import Courier.Json.Access
import Courier.Json.Writer
import Courier.Text.Quoted

/-!
Dumps of values: JSON in which every number says what kind it is. A value that JSON has no form for is
an object with one member whose name starts with a dollar sign.
-/

namespace Courier

namespace IntKind

/-- The tags of integers. -/
def tags : List (String × IntKind) :=
  [("$int", .int), ("$i8", .int8), ("$i16", .int16), ("$i32", .int32), ("$i64", .int64),
    ("$uint", .uint), ("$u8", .uint8), ("$u16", .uint16), ("$u32", .uint32), ("$u64", .uint64)]

def tag (k : IntKind) : String := ((tags.find? fun t => t.2 = k).map Prod.fst).getD ""

def ofTag? (s : String) : Option IntKind := (tags.find? fun t => t.1 = s).map Prod.snd

end IntKind

namespace Value

/-- Bytes as pairs of hexadecimal digits. -/
def hexOf (bs : List UInt8) : String :=
  String.ofList (bs.flatMap fun b => Text.hexDigits 2 b.toNat)

def bytesOfHex : List Char → List UInt8
  | a :: b :: rest =>
    UInt8.ofNat ((Json.hexValue a).getD 0 * 16 + (Json.hexValue b).getD 0) :: bytesOfHex rest
  | _ => []

def integerOfText (s : String) : Int :=
  let (negative, digits) := match s.toList with
    | '-' :: cs => (true, cs)
    | '+' :: cs => (false, cs)
    | cs => (false, cs)
  let n : Nat := digits.foldl (fun n c => n * 10 + (c.toNat - 48)) 0
  if negative then -n else n

def binaryOfText (f : Binary.Format) (s : String) : Binary :=
  if s = "NaN" then .nan
  else if s = "Inf" ∨ s = "+Inf" then .infinite false
  else if s = "-Inf" then .infinite true
  else
    let (negative, digits, exponent) := readDecimal s.toList
    Binary.ofDecimal f negative digits exponent

def sortedPairs (ps : List (Json × Json)) : List Json :=
  let keyed := ps.map fun p => (p.1.render, Json.list [p.1, p.2])
  (keyed.mergeSort fun a b => !Text.before b.1 a.1).map Prod.snd

mutual
/-- The dump of a value; the entries of a table are ordered by the dumps of their keys. -/
def dump : Value → Json
  | .null => .null
  | .bool b => .bool b
  | .text s => .text s
  | .int k n => .object [(k.tag, .text (toString n))]
  | .float x => .object [("$f64", .text (x.text .double jsonLayout))]
  | .single x => .object [("$f32", .text (x.text .single jsonLayout))]
  | .bytes bs => .object [("$bytes", .text (hexOf bs))]
  | .texts ss => .object [("$strs", .ofTexts ss)]
  | .list vs => .list (dumpItems vs)
  | .record fs => .object (dumpFields fs)
  | .table es => .object [("$anymap", .list (sortedPairs (dumpEntries es)))]
  | .time t => .object [("$time", .text t.toUtc.text)]
def dumpItems : List Value → List Json
  | [] => []
  | v :: vs => v.dump :: dumpItems vs
def dumpFields : List (String × Value) → List (String × Json)
  | [] => []
  | (k, v) :: fs => (k, v.dump) :: dumpFields fs
def dumpEntries : List (Value × Value) → List (Json × Json)
  | [] => []
  | (k, v) :: es => (k.dump, v.dump) :: dumpEntries es
end

/-- The value of a dump whose tag needs no further reading. -/
def ofTag? (tag : String) (j : Json) : Option Value :=
  match IntKind.ofTag? tag with
  | some k => some (.int k (integerOfText j.asText))
  | none =>
    if tag = "$f32" then some (.single (binaryOfText .single j.asText))
    else if tag = "$f64" then some (.float (binaryOfText .double j.asText))
    else if tag = "$bytes" then some (.bytes (bytesOfHex j.asText.toList))
    else if tag = "$strs" then some (.texts (j.asList.map Json.asText))
    else none

mutual
/-- Reads a dump; plain numbers are of double precision. -/
def ofDump : Json → Value
  | .null => .null
  | .bool b => .bool b
  | .text s => .text s
  | .number t => .float (doubleOfText t)
  | .list js => .list (itemsOfDump js)
  | .object ms =>
    let plain := ofFields (fieldsOfDump ms)
    match ms with
    | [(k, j)] =>
      if k = "$anymap" then .ofEntries (entriesOfDump j) else (ofTag? k j).getD plain
    | _ => plain
def itemsOfDump : List Json → List Value
  | [] => []
  | j :: js => ofDump j :: itemsOfDump js
def fieldsOfDump : List (String × Json) → List (String × Value)
  | [] => []
  | (k, j) :: ms => (k, ofDump j) :: fieldsOfDump ms
def entriesOfDump : Json → List (Value × Value)
  | .list ps => pairsOfDump ps
  | _ => []
def pairsOfDump : List Json → List (Value × Value)
  | [] => []
  | .list [k, v] :: ps => (ofDump k, ofDump v) :: pairsOfDump ps
  | _ :: ps => (.null, .null) :: pairsOfDump ps
end

/-- Fields by name from a dump of a record. -/
def recordOfDump (j : Json) : Keyed Value := Keyed.ofList (fieldsOfDump j.asMembers)

/-- The same, where nothing is no record at all. -/
def recordOfDump? (j : Json) : Option (Keyed Value) :=
  if j.isNull then none else some (recordOfDump j)

end Value
end Courier
