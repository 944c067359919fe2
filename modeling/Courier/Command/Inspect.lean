import Courier.Banner
import Courier.Command.Ending
import Courier.Graph.Depth
import Courier.Graph.Diagram
import Courier.Program.Lint

/-!
The commands that look at programs without running them.
-/

namespace Courier.Command

def showVersion : Ending := { output := "weft version " ++ Courier.version ++ "\n" }

/-- Shows the diagram of a program file. -/
def showGraph (w : Surroundings) (g : Given) : Ending :=
  match Source.parseFile w.files (g.words.headD "") with
  | .error e => .failed e.fault
  | .ok p => { output := (p.graph.bind fun g => g.diagram? none).getD "" }

/-- The programs of a file or a directory. -/
def programsAt (fs : Files) (path : String) : Except Fault (List Program) := do
  if ← fs.stat path then (Source.loadDir fs path).mapError (·.fault)
  else ((Source.parseFile fs path).mapError (·.fault)).map fun p => [p]

/-- A line about a program, and whether something is wrong with it. -/
def verdict (p : Program) : String × Bool :=
  match p.lint?.getD [] with
  | [] =>
    let nodes := (p.graph.map fun g => g.nodes.length).getD 0
    let depth := (p.graph.map fun g => g.depth).getD 0
    (Banner.status "ok" ++ " " ++ p.name ++ " (" ++ toString nodes ++ " nodes, depth " ++
      toString depth ++ ")\n", false)
  | fs => (Banner.status "WARN" ++ " " ++ Lint.message p.name fs ++ "\n", true)

/-- The lines about a path, and how many of them tell of a problem; advice counts as one only where
it is asked for strictly. -/
def verdicts (fs : Files) (strict : Bool) (path : String) : String × Nat :=
  match programsAt fs path with
  | .error f => (Banner.status "FAIL" ++ " " ++ path ++ ": " ++ f.message ++ "\n", 1)
  | .ok ps =>
    let vs := ps.map verdict
    (String.join (vs.map Prod.fst), if strict then (vs.filter Prod.snd).length else 0)

/-- Checks the given paths. -/
def checkPaths (fs : Files) (strict : Bool) (paths : List String) : String × Option Fault :=
  let vs := paths.map (verdicts fs strict)
  let problems := (vs.map Prod.snd).foldl (· + ·) 0
  (String.join (vs.map Prod.fst),
    if problems = 0 then none
    else some ⟨"validation failed: " ++ toString problems ++ " problem(s)", []⟩)

/-- Checks the given paths, or else the directory of the settings. -/
def validatePrograms (w : Surroundings) (g : Given) : Ending :=
  let strict := g.switch "strict" false
  if g.words.isEmpty then
    match Settings.load w g with
    | .error f => .failed f
    | .ok s =>
      let (output, fault) := checkPaths w.files strict [s.config.programsDir]
      { output, fault, level := s.level, log := s.log }
  else
    let (output, fault) := checkPaths w.files strict g.words
    { output, fault }

end Courier.Command
