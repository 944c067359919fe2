import Courier.Path
import Courier.Service.Basic

/-!
Watching a directory: a program file that appears in it or changes is loaded again. A file that is no
program leaves the version that was registered before.
-/

namespace Courier

/-- What became of a file that changed. -/
inductive Reload
  | loaded (file : String) (program : Program)
  | failed (file : String) (error : Service.LoadError)

namespace Reload

def entry : Reload → Log.Entry
  | .loaded file p => ⟨.info, "program reloaded", [("program", p.name), ("file", file)]⟩
  | .failed file e =>
    ⟨.warn, "program reload failed", [("file", file), ("err", e.fault.message)]⟩

end Reload

namespace Watch

/-- Why a directory cannot be watched, if it cannot. -/
def fault? (fs : Files) (dir : String) : Option Fault :=
  match fs.stat dir with
  | .ok _ => none
  | .error f =>
    let cause := if f.marks.contains .notExist then "no such file or directory" else "not a directory"
    some ⟨"failed to watch " ++ dir ++ ": " ++ cause, f.marks⟩

def startEntry (dir : String) : Log.Entry := ⟨.info, "Starting Watcher", [("path", dir)]⟩

/-- The name under which a change of a path shows in a directory that is watched, if it does. -/
def nameIn? (dir path : String) : Option String :=
  let name := Path.base path
  if Path.clean (Path.clean dir ++ "/" ++ name) = Path.clean path then
    some (Path.clean dir ++ "/" ++ name)
  else none

variable {σ : Type}

/-- Loads a file that appeared or changed, if it is one that is watched. -/
def reload? (fs : Files) (dir path : String) (s : Service σ) : Option (Service σ × Reload) := do
  let file ← nameIn? dir path
  if Source.isProgramFile file then
    match s.loadFile fs file with
    | .ok (s, p) =>
      let r := Reload.loaded file p
      return (s.logged [r.entry], r)
    | .error e =>
      let r := Reload.failed file e
      return (s.logged [r.entry], r)
  else none

end Watch
end Courier
