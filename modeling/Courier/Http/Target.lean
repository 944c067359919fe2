import Courier.Http.Percent
import Courier.Text.Blank

/-!
Request targets. A path is looked at as it was sent when it is not the usual form of what it stands
for, and decoded otherwise.
-/

namespace Courier.Http

/-- A request target: the decoded path, the path as sent if that is not its usual form, and the query
as sent. -/
structure Target where
  path : String
  rawPath : Option String
  query : List Char

namespace Target

/-- Reads a target; none for one that is no path or holds a bad escape. -/
def ofText? (s : String) : Option Target :=
  let (sent, query) := Text.cutChars '?' s.toList
  match sent with
  | '/' :: _ =>
    match Percent.decode? sent with
    | none => none
    | some bytes =>
      some {
        path := Text.ofUtf8 bytes
        rawPath := if Percent.encodePath bytes = sent then none else some (String.ofList sent)
        query := query.getD [] }
  | _ => none

/-- The path that routes are matched against. -/
def routePath (t : Target) : String := t.rawPath.getD t.path

/-- One name and value of a query; none for a pair that cannot be read. -/
def readPair (cs : List Char) : Option (String × String) :=
  if cs.isEmpty ∨ cs.contains ';' then none
  else
    let (name, value) := Text.cutChars '=' cs
    match Percent.decodeQuery? name, Percent.decodeQuery? (value.getD []) with
    | some n, some v => some (Text.ofUtf8 n, Text.ofUtf8 v)
    | _, _ => none

/-- The first value of a query parameter. -/
def parameter? (t : Target) (name : String) : Option String :=
  (((Text.splitChars '&' t.query).filterMap readPair).find? fun p => p.1 = name).map Prod.snd

end Target
end Courier.Http
