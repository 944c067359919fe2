import Courier.Log.Entry
import Courier.Text.Blank
import Courier.Text.Quoted

/-!
The line of a log entry: `key=value` pairs with a blank between them. A key or value that is empty or
holds a blank, an equals sign, a quote or a character that does not print is quoted.
-/

namespace Courier.Log

namespace Level

/-- The name of a level: the nearest named level below it, and how far it is above. -/
def name (l : Level) : String :=
  let above (base : String) (n : Int) : String :=
    if n = 0 then base else if 0 < n then base ++ "+" ++ toString n else base ++ toString n
  if l.rank < 0 then above "DEBUG" (l.rank + 4)
  else if l.rank < 4 then above "INFO" l.rank
  else if l.rank < 8 then above "WARN" (l.rank - 4)
  else above "ERROR" (l.rank - 8)

end Level

/-- A character that forces quotes. -/
def forcesQuotes (c : Char) : Bool :=
  if c.toNat < 0x80 then c.toNat ≤ 0x20 || c = '"' || c = '='
  else c.toNat = 0xfffd || Text.isBlank c || !Text.isPrintable c

/-- The form of a key or a value in a line. -/
def field (s : String) : String :=
  if s.toList.isEmpty || s.toList.any forcesQuotes then Text.quote s else s

def pair (p : String × String) : String := field p.1 ++ "=" ++ field p.2

namespace Entry

/-- Level, message and attributes in their order. -/
def text (e : Entry) : String :=
  String.intercalate " " (("level=" ++ e.level.name) :: ("msg=" ++ field e.message) ::
    e.attrs.map pair)

end Entry
end Courier.Log
