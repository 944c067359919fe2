import Courier.Program.Basic

/-!
The registry of programs by name. Only programs that pass their check are ever in it.
-/

namespace Courier

/-- Programs by name. -/
abbrev Registry := Keyed Program

namespace Registry

def registerFault (e : ProgramError) : Fault := e.fault.within "failed to register program: "

/-- Registers a program under its name, in place of an earlier one. -/
def register (r : Registry) (p : Option Program) : Except Fault Registry :=
  match p with
  | none => .error (registerFault .missing)
  | some p =>
    match p.check with
    | .error e => .error (registerFault e)
    | .ok _ => .ok (Keyed.insert p.name p r)

def unregister (r : Registry) (name : String) : Registry := Keyed.erase name r

def notFound (name : String) : Fault := ⟨"program not found: " ++ name, [.programNotFound]⟩

def program (r : Registry) (name : String) : Except Fault Program :=
  match Keyed.get? r name with
  | some p => .ok p
  | none => .error (notFound name)

/-- The registered names in increasing order. -/
def programs (r : Registry) : List String := Keyed.keys r

end Registry
end Courier
