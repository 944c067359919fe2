import Courier.Json.Basic
import Courier.Number.Decimal
import Courier.Number.Literal
import Courier.Text.Base64
import Courier.Value.Basic

/-!
Values as JSON documents and back. Numbers lose their kind on the way: they come back as doubles.
Infinities, not-a-number, instants that the compact form cannot show and tables with keys other than
texts and integers have no JSON form.
-/

namespace Courier

/-- Why a value has no JSON form. -/
inductive Json.EncodeError
  | number (text : String)
  | time (why : String)
  | key
  deriving DecidableEq

def Json.EncodeError.message : Json.EncodeError → String
  | .number t => "json: unsupported value: " ++ t
  | .time why => "json: error calling MarshalJSON for type *time.Time: " ++ why
  | .key => "json: unsupported value: jsontext: object member name must be a string"

namespace Value

/-- JSON numbers are positional from 1e-6 up to 1e21. -/
def jsonLayout : Decimal.Layout := ⟨fun place => -6 ≤ place && place < 21, 1⟩

def numberJson (f : Binary.Format) (x : Binary) : Except Json.EncodeError Json :=
  if x.isFinite then .ok (.number (x.text f jsonLayout))
  else .error (.number (x.text f jsonLayout))

def timeJson (t : Instant) : Except Json.EncodeError Json :=
  if !t.hasFourDigitYear then .error (.time "year outside of range [0,9999]")
  else if !t.zone.isWithinDay then .error (.time "timezone hour outside of range [0,23]")
  else .ok (.text t.text)

/-- The member name of a table key. -/
def keyText : Value → Except Json.EncodeError String
  | .text s => .ok s
  | .int _ n => .ok (toString n)
  | _ => .error .key

mutual
def toJson : Value → Except Json.EncodeError Json
  | .null => .ok .null
  | .bool b => .ok (.bool b)
  | .text s => .ok (.text s)
  | .int _ n => .ok (Json.ofInt n)
  | .float x => numberJson .double x
  | .single x => numberJson .single x
  | .bytes bs => .ok (.text (Base64.encode bs))
  | .texts ss => .ok (Json.ofTexts ss)
  | .list vs => (jsonItems vs).map Json.list
  | .record fs => (jsonMembers fs).map Json.object
  | .table es => (jsonEntries es).map fun ms => Json.object (Keyed.ofList ms)
  | .time t => timeJson t
def jsonItems : List Value → Except Json.EncodeError (List Json)
  | [] => .ok []
  | v :: vs => do
    let j ← v.toJson
    let js ← jsonItems vs
    .ok (j :: js)
def jsonMembers : List (String × Value) → Except Json.EncodeError (List (String × Json))
  | [] => .ok []
  | (k, v) :: fs => do
    let j ← v.toJson
    let js ← jsonMembers fs
    .ok ((k, j) :: js)
def jsonEntries : List (Value × Value) → Except Json.EncodeError (List (String × Json))
  | [] => .ok []
  | (k, v) :: es => do
    let k ← k.keyText
    let j ← v.toJson
    let js ← jsonEntries es
    .ok ((k, j) :: js)
end

/-- The number that decimal digits write. -/
def digitsValue (cs : List Char) : Nat := cs.foldl (fun n c => n * 10 + (c.toNat - 48)) 0

/-- Reads a sign, digits with at most one point and an exponent; gives the sign, all digits as one
number and the power of ten. Only texts of that shape are given to it. -/
def readDecimal (cs : List Char) : Bool × Nat × Int :=
  let (negative, cs) := Literal.sign cs
  let mantissa := cs.takeWhile fun c => c ≠ 'e' && c ≠ 'E'
  let whole := mantissa.takeWhile (· ≠ '.')
  let fraction := (mantissa.drop whole.length).drop 1
  let (down, power) := Literal.sign (cs.drop (mantissa.length + 1))
  let exponent : Int := if down then -digitsValue power else digitsValue power
  (negative, digitsValue (whole ++ fraction), exponent - fraction.length)

/-- The double nearest to a written decimal. -/
def doubleOfText (s : String) : Binary :=
  let (negative, digits, exponent) := readDecimal s.toList
  Binary.ofDecimal .double negative digits exponent

mutual
/-- The value of a document; none when a number is too large for a double. -/
def ofJson? : Json → Option Value
  | .null => some .null
  | .bool b => some (.bool b)
  | .number t =>
    let x := doubleOfText t
    if x.isFinite then some (.float x) else none
  | .text s => some (.text s)
  | .list js => (ofItems? js).map Value.list
  | .object ms => (ofMembers? ms).map Value.ofFields
def ofItems? : List Json → Option (List Value)
  | [] => some []
  | j :: js => do
    let v ← ofJson? j
    let vs ← ofItems? js
    some (v :: vs)
def ofMembers? : List (String × Json) → Option (List (String × Value))
  | [] => some []
  | (k, j) :: ms => do
    let v ← ofJson? j
    let vs ← ofMembers? ms
    some ((k, v) :: vs)
end

end Value
end Courier
