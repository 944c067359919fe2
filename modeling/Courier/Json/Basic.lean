/-!
JSON documents. A number is kept as it was written, and an object keeps its members in order, repeated
names included.
-/

namespace Courier

inductive Json
  | null
  | bool (b : Bool)
  | number (text : String)
  | text (s : String)
  | list (items : List Json)
  | object (members : List (String × Json))
  deriving Inhabited

namespace Json

/-- The last member of a name. -/
def member? (name : String) : Json → Option Json
  | .object ms => (ms.reverse.find? fun m => m.1 = name).map Prod.snd
  | _ => none

def ofInt (n : Int) : Json := .number (toString n)

def ofTexts (ss : List String) : Json := .list (ss.map Json.text)

end Json
end Courier
