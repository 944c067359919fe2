/-!
Words for truth values.
-/

namespace Courier.Text

/-- The truth value of a word: `1` or `0`, or a form of `true` or `false`. -/
def truth? (s : String) : Option Bool :=
  if ["1", "t", "T", "TRUE", "true", "True"].contains s then some true
  else if ["0", "f", "F", "FALSE", "false", "False"].contains s then some false
  else none

end Courier.Text
