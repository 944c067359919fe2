import Courier.Keyed
import Courier.Text.Blank
import Courier.Text.Quoted
import Courier.Value.Show

/-!
Payload schemas: a type for each field, where a name that ends in `?` marks an optional field. Checking
a payload reports every field that fails, in the order of the declared names.
-/

namespace Courier

/-- The type of a payload field. -/
inductive Typ
  | string | int | float | bool | object | any
  | slice (elem : Typ)
  deriving DecidableEq

namespace Typ

/-- The declaration form of a type. -/
def name : Typ → String
  | .string => "string"
  | .int => "int"
  | .float => "float"
  | .bool => "bool"
  | .object => "object"
  | .any => "any"
  | .slice t => "[" ++ t.name ++ "]"

/-- Whole numbers of any kind. A single-precision infinity counts as one. -/
def acceptsInt : Value → Bool
  | .int .. => true
  | .float x => x.isWhole
  | .single x => x.isWhole || (!x.isFinite && !x.isNaN)
  | _ => false

def isNumber : Value → Bool
  | .int .. => true
  | .float _ => true
  | .single _ => true
  | _ => false

/-- The elements of a list of any kind. -/
def elements? : Value → Option (List Value)
  | .list vs => some vs
  | .texts ss => some (ss.map Value.text)
  | .bytes bs => some (bs.map fun b => .int .uint8 b.toNat)
  | _ => none

/-- Why a value is not of a type. -/
inductive Mismatch
  | kind (expected : Typ) (got : String)
  | element (index : Nat) (inner : Mismatch)

def Mismatch.message : Mismatch → String
  | .kind t got => "expected " ++ t.name ++ ", got " ++ got
  | .element i m => "element " ++ toString i ++ ": " ++ m.message

/-- Whether a value is of a type other than a slice. -/
def scalarAccepts : Typ → Value → Bool
  | .string, .text _ => true
  | .int, v => acceptsInt v
  | .float, v => isNumber v
  | .bool, .bool _ => true
  | .object, .record _ => true
  | .any, _ => true
  | _, _ => false

/-- The first mismatch among elements numbered from `i`. -/
def firstMismatch (check : Value → Option Mismatch) : Nat → List Value → Option Mismatch
  | _, [] => none
  | i, v :: vs =>
    match check v with
    | some m => some (.element i m)
    | none => firstMismatch check (i + 1) vs

/-- Checks a value; `none` when it is of the type. -/
def check : Typ → Value → Option Mismatch
  | .slice t, v =>
    match elements? v with
    | some vs => firstMismatch t.check 0 vs
    | none => some (.kind (.slice t) v.typeName)
  | t, v => if scalarAccepts t v then none else some (.kind t v.typeName)

end Typ

/-- Field names, optional marks included, with their types. -/
abbrev Schema := Keyed Typ

namespace Schema

/-- A declared name without the optional mark, and whether it had one. -/
def splitOptional (key : String) : String × Bool :=
  match key.toList.reverse with
  | '?' :: rest => (String.ofList rest.reverse, true)
  | _ => (key, false)

/-- The field names without optional marks, in increasing order. -/
def fields (s : Schema) : List String := Text.sort (s.map fun f => (splitOptional f.1).1)

/-- Why one field fails. -/
inductive Reason
  | required
  | mismatch (m : Typ.Mismatch) (value : Value)

def Reason.message : Reason → String
  | .required => "required"
  | .mismatch m _ => m.message

structure FieldError where
  key : String
  reason : Reason

def FieldError.message (e : FieldError) : String :=
  "field " ++ Text.quote e.key ++ ": " ++ e.reason.message

/-- What is wrong with the field of one declaration. -/
def fieldError? (data : Keyed Value) (key : String) (t : Typ) : Option FieldError :=
  let (field, optional) := splitOptional key
  match Keyed.get? data field with
  | none => if optional then none else some ⟨field, .required⟩
  | some v => (t.check v).map fun m => ⟨field, .mismatch m v⟩

/-- Every field of a payload that does not satisfy the schema. -/
def failures (s : Schema) (data : Keyed Value) : List FieldError :=
  s.filterMap fun f => fieldError? data f.1 f.2

/-- The text of a list of failures. -/
def failureMessage (es : List FieldError) : String :=
  match es with
  | [e] => e.message
  | es =>
    toString es.length ++ " validation errors: " ++
      String.intercalate "; " (es.map FieldError.message)

end Schema
end Courier
