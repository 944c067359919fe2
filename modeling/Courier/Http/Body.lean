import Courier.Json.Access
import Courier.Message
import Courier.Result.Json

/-!
Bodies of requests that send a message: what the interface's description asks of them, and how they
are read. The description looks at member names exactly, reading does not look at their case.
-/

namespace Courier.Http

/-- A message as it stands in a request. -/
structure Body where
  id : String := ""
  headers : Option (Keyed String) := none
  payload : Option (Keyed Value) := none

namespace Body

/-- The longest id that can be asked for, in characters. -/
def maxIdLength : Nat := 128

def isText : Json → Bool
  | .text _ => true
  | _ => false

def isObject : Json → Bool
  | .object _ => true
  | _ => false

/-- Whether a document fits the description: it has a payload that is an object; an id, if there is
one, is a text that is not too long; headers, if there are any, are texts. -/
def fits (j : Json) : Bool :=
  isObject j &&
  (match j.member? "payload" with
    | some p => isObject p
    | none => false) &&
  (match j.member? "id" with
    | some (.text s) => s.toList.length ≤ maxIdLength
    | some _ => false
    | none => true) &&
  (match j.member? "headers" with
    | some (.object ms) => (Keyed.ofList ms).all fun m => isText m.2
    | some _ => false
    | none => true)

/-- The headers of a document, set over those read before; a header that is null is empty. -/
def readHeaders (old : Option (Keyed String)) : Json → Option (Option (Keyed String))
  | .null => some none
  | .object ms =>
    (ms.mapM fun m => (Json.textOr "" m.2).map fun s => (m.1, s)).map fun hs =>
      some (Keyed.overlay (old.getD []) hs)
  | _ => none

/-- One member read into a body. -/
def readMember (b : Body) (m : String × Json) : Option Body :=
  match Json.knownName ["id", "headers", "payload"] m.1 with
  | some "id" => (Json.textOr b.id m.2).map fun s => { b with id := s }
  | some "headers" => (readHeaders b.headers m.2).map fun h => { b with headers := h }
  | some "payload" => (Result.readBindings b.payload m.2).map fun p => { b with payload := p }
  | _ => some b

def ofJson? : Json → Option Body
  | .null => some {}
  | .object ms => ms.foldlM readMember {}
  | _ => none

/-- The first document of a text. -/
def firstJson? (s : String) : Option Json := (Json.readFirst? s.toList).map Prod.fst

end Body

end Courier.Http
