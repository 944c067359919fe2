import Courier.Json.Reader
import Courier.Value.Json

/-!
Reading members of documents leniently: what is missing or of another kind reads as nothing, the empty
text, zero or false.
-/

namespace Courier.Json

def isNull : Json → Bool
  | .null => true
  | _ => false

def asText : Json → String
  | .text s => s
  | _ => ""

/-- A number cut to an integer. -/
def asInt : Json → Int
  | .number t => (Binary.truncate (Value.doubleOfText t)).getD 0
  | _ => 0

def asBool : Json → Bool
  | .bool b => b
  | _ => false

def asList : Json → List Json
  | .list l => l
  | _ => []

def asMembers : Json → List (String × Json)
  | .object ms => ms
  | _ => []

/-- The member of a name. -/
def get (j : Json) (name : String) : Json := (j.member? name).getD .null

def textAt (j : Json) (name : String) : String := (j.get name).asText

def intAt (j : Json) (name : String) : Int := (j.get name).asInt

/-- An integer, or another one where there is none. -/
def intOr (default : Int) (j : Json) (name : String) : Int :=
  if (j.get name).isNull then default else j.intAt name

def boolAt (j : Json) (name : String) : Bool := (j.get name).asBool

def listAt (j : Json) (name : String) : List Json := (j.get name).asList

def membersAt (j : Json) (name : String) : List (String × Json) := (j.get name).asMembers

/-- A text member. -/
def textPair (name value : String) : String × Json := (name, .text value)

def intPair (name : String) (value : Int) : String × Json := (name, ofInt value)

def boolPair (name : String) (value : Bool) : String × Json := (name, .bool value)

def textsPair (name : String) (values : List String) : String × Json := (name, ofTexts values)

/-- What is there, or nothing. -/
def ofOption {α : Type} (f : α → Json) : Option α → Json
  | some a => f a
  | none => .null

end Courier.Json
