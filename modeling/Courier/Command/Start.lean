import Courier.Command.Inspect
import Courier.Command.Run
import Courier.Command.Serve

/-!
Carrying out a command line.
-/

namespace Courier.Command

/-- Starts what a command line asks for. -/
def start (w : Surroundings) (words : List String) : Started :=
  match request words with
  | .error e => .ended (.failed e.fault)
  | .ok .help => .ended { output := usage }
  | .ok (.command c g) =>
    match c with
    | .graph => .ended (showGraph w g)
    | .mcp => serveAgents w g
    | .run => .ended (runProgram w g)
    | .serve => serveMessages w g
    | .validate => .ended (validatePrograms w g)
    | .version => .ended showVersion

end Courier.Command
