/-!
Log entries: a level, a message and attributes, the values already in their display form.
-/

namespace Courier.Log

/-- Levels are numbers, so that there is room between the named ones. -/
structure Level where
  rank : Int
  deriving DecidableEq

namespace Level

def debug : Level := ⟨-4⟩

def info : Level := ⟨0⟩

def warn : Level := ⟨4⟩

def error : Level := ⟨8⟩

end Level

/-- One line of a log. -/
structure Entry where
  level : Level
  message : String
  attrs : List (String × String)
  deriving DecidableEq

end Courier.Log
