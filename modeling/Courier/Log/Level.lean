import Courier.Log.Entry
import Courier.Mark
import Courier.Text.Blank
import Courier.Text.Fold
import Courier.Text.Quoted

/-!
Log levels by name.
-/

namespace Courier.Log.Level

/-- The level of a word, whatever its case and the blanks around it; no word means information. -/
def ofWord (s : String) : Except Fault Level :=
  let w := Text.lower (Text.trim s)
  if w = "debug" then .ok debug
  else if w = "" ∨ w = "info" then .ok info
  else if w = "warn" ∨ w = "warning" then .ok warn
  else if w = "error" then .ok error
  else .error ⟨"unknown log level " ++ Text.quote s, []⟩

end Courier.Log.Level
