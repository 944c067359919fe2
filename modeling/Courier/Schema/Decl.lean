import Courier.Json.Reader
import Courier.Json.Writer
import Courier.Schema.Basic

/-!
Type declarations as text: their reader, and the JSON form of schemas that maps each field to its
declaration.
-/

namespace Courier

/-- A declaration that names no type. -/
structure Typ.DeclError where
  decl : String

def Typ.DeclError.message (e : Typ.DeclError) : String := "unsupported type: " ++ e.decl

namespace Typ

/-- The types written as a word. -/
def ofWord? (s : String) : Option Typ :=
  if s = "string" then some .string
  else if s = "int" then some .int
  else if s = "float" ∨ s = "number" then some .float
  else if s = "bool" then some .bool
  else if s = "object" ∨ s = "map" then some .object
  else if s = "any" ∨ s = "" then some .any
  else none

/-- What stands between a pair of square brackets, when there is something. -/
def unbracket? (cs : List Char) : Option (List Char) :=
  match cs with
  | '[' :: rest =>
    match rest.reverse with
    | ']' :: c :: inner => some (c :: inner).reverse
    | _ => none
  | _ => none

/-- Reads a declaration, stripping one pair of brackets for each unit of fuel. -/
def ofChars : Nat → List Char → Except DeclError Typ
  | 0, cs => .error ⟨String.ofList cs⟩
  | fuel + 1, cs =>
    let cs := Text.trimChars cs
    match unbracket? cs with
    | some inner => (ofChars fuel inner).map Typ.slice
    | none =>
      match ofWord? (String.ofList cs) with
      | some t => .ok t
      | none => .error ⟨String.ofList cs⟩

/-- Reads a declaration such as `int` or `[string]`; blanks around it and inside brackets do not
count, and an empty one accepts anything. -/
def ofDecl (s : String) : Except DeclError Typ := ofChars (s.toList.length + 1) s.toList

end Typ

/-- Why a set of declarations or a JSON text is no schema. -/
inductive Schema.DeclError
  | field (name : String) (error : Typ.DeclError)
  | untyped (name : String)
  | document (detail : String)

def Schema.DeclError.message : Schema.DeclError → String
  | .field name e => "field " ++ name ++ ": " ++ e.message
  | .untyped name => "field " ++ name ++ ": type is nil"
  | .document detail => "schema: " ++ detail

namespace Schema

/-- Reads one declaration for each field; the first bad one in name order is reported. -/
def ofDecls : Keyed String → Except DeclError Schema
  | [] => .ok []
  | (field, decl) :: rest =>
    match Typ.ofDecl decl with
    | .error e => .error (.field field e)
    | .ok t => (ofDecls rest).map ((field, t) :: ·)

/-- The JSON form; a field whose type was left out has none, and no schema at all is null. -/
def toJson : Option (Keyed (Option Typ)) → Except DeclError Json
  | none => .ok .null
  | some fs =>
    match fs.find? fun f => f.2.isNone with
    | some f => .error (.untyped f.1)
    | none => .ok (.object (fs.map fun f => (f.1, .text ((f.2.map Typ.name).getD ""))))

/-- The declarations of a JSON object whose members are texts; null stands for an empty one. -/
def declsOfJson : List (String × Json) → Option (List (String × String))
  | [] => some []
  | (k, .text s) :: ms => (declsOfJson ms).map ((k, s) :: ·)
  | (k, .null) :: ms => (declsOfJson ms).map ((k, "") :: ·)
  | _ :: _ => none

/-- Reads the form that `toJson` writes. -/
def ofJson : Json → Except DeclError (Option Schema)
  | .null => .ok none
  | .object ms =>
    match declsOfJson ms with
    | some ds => (ofDecls (Keyed.ofList ds)).map some
    | none => .error (.document "a field is not a text")
  | _ => .error (.document "not an object")

end Schema
end Courier
