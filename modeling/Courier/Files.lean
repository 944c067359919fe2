import Courier.Keyed
import Courier.Mark
import Courier.Path

/-!
A snapshot of the files below the working directory.
-/

namespace Courier

/-- File contents by clean path, and the directories. -/
structure Files where
  texts : Keyed String
  folders : List String

namespace Files

/-- The directories above a path. -/
def parents (p : String) : List String :=
  let es := Path.elements p
  (List.range es.length).map fun n => Path.clean (String.intercalate "/" (es.take n))

/-- The snapshot with one more file; a name that ends in a slash makes a directory. -/
def add (fs : Files) (name content : String) : Files :=
  let p := Path.clean name
  if Text.endsWith "/" name then { fs with folders := p :: (parents p ++ fs.folders) }
  else ⟨Keyed.insert p content fs.texts, parents p ++ fs.folders⟩

def empty : Files := ⟨[], ["."]⟩

def ofList (entries : List (String × String)) : Files :=
  entries.foldl (fun fs e => fs.add e.1 e.2) empty

def remove (fs : Files) (name : String) : Files :=
  { fs with texts := Keyed.erase (Path.clean name) fs.texts }

def isFolder (fs : Files) (p : String) : Bool := fs.folders.contains (Path.clean p)

/-- Why something cannot be done with a path: a file stands where a directory should, or there is
nothing. -/
def missing (fs : Files) (what p : String) : Fault :=
  if (parents p).any fun d => Keyed.contains fs.texts d then
    ⟨what ++ " " ++ p ++ ": not a directory", []⟩
  else ⟨what ++ " " ++ p ++ ": no such file or directory", [.notExist]⟩

/-- The content of a file. -/
def read (fs : Files) (p : String) : Except Fault String :=
  if p = "" then .error ⟨"open : no such file or directory", [.notExist]⟩
  else
    match Keyed.get? fs.texts (Path.clean p) with
    | some t => if Text.endsWith "/" p then .error ⟨"open " ++ p ++ ": not a directory", []⟩ else .ok t
    | none =>
      if fs.isFolder p then .error ⟨"read " ++ p ++ ": is a directory", []⟩ else .error (fs.missing "open" p)

/-- The names of the files directly in a directory, in increasing order. -/
def names (fs : Files) (dir : String) : Except Fault (List String) :=
  if dir = "" then .error ⟨"open : no such file or directory", [.notExist]⟩
  else if fs.isFolder dir then
    .ok ((Keyed.keys fs.texts).filter (fun p => Path.clean (dir ++ "/" ++ Path.base p) = p)
      |>.map Path.base |> Text.sort)
  else if Keyed.contains fs.texts (Path.clean dir) then
    .error ⟨"open " ++ dir ++ ": not a directory", []⟩
  else .error (fs.missing "open" dir)

/-- Whether a path is a directory, if there is anything. -/
def stat (fs : Files) (p : String) : Except Fault Bool :=
  if p = "" then .error ⟨"stat : no such file or directory", [.notExist]⟩
  else if fs.isFolder p then .ok true
  else if Keyed.contains fs.texts (Path.clean p) then
    if Text.endsWith "/" p then .error ⟨"stat " ++ p ++ ": not a directory", []⟩ else .ok false
  else .error (fs.missing "stat" p)

end Files
end Courier
