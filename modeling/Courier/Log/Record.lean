import Courier.Log.Text
import Courier.Text.Utf8
import Courier.Value.Show

/-!
Log records whose attributes are values, and the lines a log of some level keeps of them.
-/

namespace Courier.Log

/-- A call to the log. -/
structure Record where
  level : Level
  message : String
  attrs : List (String × Value)

/-- The form of a value in a line: bytes are shown as quoted text, single precision as double. -/
def valueField : Value → String
  | .bytes bs => Text.quote (Text.ofUtf8 bs)
  | .single x => field (Value.float x).display
  | v => field v.display

/-- The name an attribute is written under: errors have one name throughout. -/
def attrName (key : String) : String := if key = "error" then "err" else key

def Record.text (r : Record) : String :=
  String.intercalate " " (("level=" ++ r.level.name) :: ("msg=" ++ field r.message) ::
    r.attrs.map fun a => field (attrName a.1) ++ "=" ++ valueField a.2)

/-- The lines of the records at a level or above it. -/
def lines (level : Level) (rs : List Record) : List String :=
  (rs.filter fun r => level.rank ≤ r.level.rank).map Record.text

end Courier.Log
