import Courier.Text.Blank

/-!
File paths with slashes: their clean form, and their last element with its extension.
-/

namespace Courier.Path

def isRooted (p : String) : Bool := p.toList.head? = some '/'

/-- Adds an element to elements kept in reverse: `..` takes the one before it away, unless there is
none or that one is `..` too. -/
def push (rooted : Bool) (acc : List String) (e : String) : List String :=
  if e = "" ∨ e = "." then acc
  else if e = ".." then
    match acc with
    | [] => if rooted then [] else [".."]
    | a :: rest => if a = ".." then ".." :: acc else rest
  else e :: acc

/-- The elements of a path without empty ones, single points and what `..` takes away. -/
def elements (p : String) : List String :=
  ((Text.split '/' p).foldl (push (isRooted p)) []).reverse

/-- The shortest path to the same place. -/
def clean (p : String) : String :=
  let joined := String.intercalate "/" (elements p)
  if isRooted p then "/" ++ joined else if joined = "" then "." else joined

/-- A name below a directory. -/
def join (dir name : String) : String :=
  if dir = "" then clean name else clean (dir ++ "/" ++ name)

/-- The last element. -/
def base (p : String) : String :=
  if p = "" then "."
  else
    match (Text.dropEndWhile (· = '/') p.toList) with
    | [] => "/"
    | cs => String.ofList (cs.reverse.takeWhile (· ≠ '/')).reverse

/-- The part of the last element from its last point on. -/
def extension (p : String) : String :=
  let tail := p.toList.reverse.takeWhile (· ≠ '/')
  if tail.contains '.' then String.ofList ('.' :: (tail.takeWhile (· ≠ '.')).reverse) else ""

/-- The last element without the extension. -/
def stem (p : String) : String :=
  let b := (base p).toList
  let e := (extension p).toList
  match Text.afterStart? e.reverse b.reverse with
  | some rest => String.ofList rest.reverse
  | none => String.ofList b

end Courier.Path
