import Courier.Graph.Check
import Courier.Schema.Basic

/-!
Programs: a named graph with the schema its messages must satisfy.
-/

namespace Courier

structure Program where
  name : String
  version : String
  graph : Option Graph
  input : Option Schema

/-- Why something is no runnable program. -/
inductive ProgramError
  | missing
  | unnamed
  | noGraph (program : String)
  | graph (program : String) (error : Graph.CheckError)
  deriving DecidableEq

namespace ProgramError

def message : ProgramError → String
  | .missing => "program is nil"
  | .unnamed => "program name is required"
  | .noGraph p => "program " ++ p ++ ": invalid graph: no graph"
  | .graph p e => "program " ++ p ++ ": " ++ e.message

def marks : ProgramError → List Mark
  | .missing => []
  | .unnamed => []
  | .noGraph _ => [.invalidGraph]
  | .graph .. => [.invalidGraph]

def fault (e : ProgramError) : Fault := ⟨e.message, e.marks⟩

end ProgramError

namespace Program

/-- Checks the name, then the graph. -/
def check (p : Program) : Except ProgramError Unit :=
  if p.name = "" then .error .unnamed
  else
    match p.graph with
    | none => .error (.noGraph p.name)
    | some g => g.check.mapError (.graph p.name)

/-- Checks a program that may be missing altogether. -/
def check? : Option Program → Except ProgramError Unit
  | none => .error .missing
  | some p => p.check

/-- The declared input fields, none without a schema. -/
def schema (p : Program) : Schema := p.input.getD []

end Program
end Courier
