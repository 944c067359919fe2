import Courier.Command.Stack
import Courier.Command.Basic
import Courier.Config.Load
import Courier.Log.Text

/-!
What a command finds around it, and how it ends.
-/

namespace Courier.Command

/-- The world of a command: files, environment, standard input, where results and claims are kept,
and the number of processors. -/
structure Surroundings where
  files : Files
  environment : Config.Environment
  input : Except Fault String
  depot : Depot := {}
  processors : Nat := 1

/-- The end of a command: what it wrote, why it failed if it did, and the log it kept. -/
structure Ending where
  output : String := ""
  fault : Option Fault := none
  level : Log.Level := .info
  log : List Log.Entry := []

namespace Ending

def failed (f : Fault) : Ending := { fault := some f }

/-- The code that is handed to the caller of the command. -/
def code (e : Ending) : Nat := if e.fault.isSome then 1 else 0

/-- The lines of the log at its level or above. -/
def logLines (e : Ending) : List String :=
  (e.log.filter fun l => e.level.rank ≤ l.level.rank).map Log.Entry.text

end Ending

/-- Settings with the level of the log, and what was logged while they were read. -/
structure Settings where
  config : Config
  level : Log.Level
  log : List Log.Entry

/-- Reads the settings a command works with; a level that is no word for one means information. -/
def Settings.load (w : Surroundings) (g : Given) : Except Fault Settings := do
  let (config, fault) := Config.load w.files w.environment (g.text "config")
  if let some f := fault then throw f
  let asked := g.text "log-level"
  let config := if asked = "" then config else { config with logLevel := asked }
  match Log.Level.ofWord config.logLevel with
  | .ok level => return ⟨config, level, []⟩
  | .error f =>
    return ⟨config, .info, [⟨.warn, "falling back to info logging", [("err", f.message)]⟩]⟩

namespace Settings

/-- Puts a service together. -/
def stack (s : Settings) (w : Surroundings) (observing : Bool) : Except Fault Stack :=
  Stack.ofConfig w.processors s.config observing w.depot s.log

/-- An end before there was a service. -/
def failed (s : Settings) (f : Fault) : Ending :=
  { fault := some f, level := s.level, log := s.log }

/-- An end at which the service is closed. -/
def closing (s : Settings) (k : Stack) (output : String) (fault : Option Fault) : Ending :=
  { output, fault, level := s.level, log := k.close.log }

end Settings
end Courier.Command
