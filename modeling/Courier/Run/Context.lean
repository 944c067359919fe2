import Courier.Message
import Courier.Program.Basic

/-!
The state of one request. Names are bound at most once in the list of assigned names, and names in the
two reserved namespaces are never bound.
-/

namespace Courier

structure Context where
  message : Message
  program : Option Program
  bindings : Keyed Value
  assigned : List String
  cursor : Int
  steps : Nat
  reply : Option Value
  decision : Bool

/-- Why a name cannot be assigned. -/
inductive TargetError
  | blank
  | reserved (name space : String)
  deriving DecidableEq

def TargetError.message : TargetError → String
  | .blank => "invalid assignment target: empty name"
  | .reserved name space =>
    "invalid assignment target: " ++ Text.quote name ++ " is in reserved namespace " ++
      Text.quote space

namespace Context

def graph (c : Context) : Option Graph := c.program.bind Program.graph

def programName (c : Context) : String :=
  match c.program with
  | some p => p.name
  | none => ""

/-- The state before the first step. -/
def start (m : Message) (p : Option Program) : Context :=
  let entry := match p.bind Program.graph with
    | some g => g.entry
    | none => noNode
  ⟨m, p, [], [], entry, 0, none, false⟩

/-- The namespaces programs cannot write to. -/
def reservedSpaces : List String := ["sys", "msg"]

def inSpace (name space : String) : Bool :=
  name = space || Text.startsWith (space ++ ".") name

def checkTarget (name : String) : Except TargetError Unit :=
  if Text.trim name = "" then .error .blank
  else
    match reservedSpaces.find? (inSpace name) with
    | some space => .error (.reserved name space)
    | none => .ok ()

/-- Binds a value to a name; the first binding of a name also puts it on the assigned list. -/
def bind (c : Context) (name : String) (v : Value) : Except TargetError Context :=
  match checkTarget name with
  | .error e => .error e
  | .ok _ =>
    let assigned := if Keyed.contains c.bindings name then c.assigned else c.assigned ++ [name]
    .ok { c with bindings := Keyed.insert name v c.bindings, assigned }

def lookup (c : Context) (name : String) : Option Value := Keyed.get? c.bindings name

end Context
end Courier
