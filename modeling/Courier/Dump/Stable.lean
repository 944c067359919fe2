import Courier.Json.Basic
import Courier.Text.Blank

/-!
Stable texts. Two transcripts of the same work can be compared once what changes from run to run is
hidden: random identifiers, readings of the clock, and the wording of the readers of foreign formats.
-/

namespace Courier
namespace Stable

/-- A text that ends where the details begin: behind `head`, and behind the first `tail` after it. -/
structure Cut where
  head : String
  tail : String := ""

def cuts : List Cut :=
  [⟨"invalid yaml: ", ""⟩, ⟨"error parsing payload JSON: ", ""⟩,
    ⟨"payload must be a JSON object: ", ""⟩, ⟨"failed to parse config ", ": "⟩,
    ⟨"failed to unmarshal result ", ": "⟩, ⟨"failed to unmarshal decrypted result: ", ""⟩,
    ⟨"failed to bind arguments: ", ""⟩, ⟨"invalid base64 key: ", ""⟩,
    ⟨"failed to decode ciphertext base64: ", ""⟩, ⟨": error parsing regexp: ", ""⟩]

def detail : List Char := "<detail>".toList

/-- What stands in front of the first occurrence of a text, and what stands behind it. -/
def around? (p : List Char) : List Char → Option (List Char × List Char)
  | [] => none
  | c :: cs =>
    match Text.afterStart? p (c :: cs) with
    | some rest => some ([], rest)
    | none => (around? p cs).map fun (a, b) => (c :: a, b)

namespace Cut

/-- The text with its details hidden, if the cut applies. -/
def hide? (k : Cut) (cs : List Char) : Option (List Char) := do
  let (a, rest) ← around? k.head.toList cs
  let start := a ++ k.head.toList
  if k.tail = "" then return start ++ detail
  let (b, _) ← around? k.tail.toList rest
  return start ++ b ++ k.tail.toList ++ detail

end Cut

/-- A message without the wording of foreign readers. -/
def message (s : String) : String :=
  let cs := cuts.foldl (fun cs k => (k.hide? cs).getD cs) s.toList
  let schema := "schema: ".toList
  let cs := if (Text.afterStart? schema cs).isSome then schema ++ detail else cs
  String.ofList (match around? "jsontext: ".toList cs with
    | some (a, _) => a ++ detail
    | none => cs)

/-- Whether characters are a random identifier. -/
def isRandomId (cs : List Char) : Bool :=
  cs.length = 36 && (cs.zip "xxxxxxxx-xxxx-4xxx-yxxx-xxxxxxxxxxxx".toList).all fun (c, p) =>
    if p = 'x' then c.isDigit || ('a' ≤ c && c ≤ 'f')
    else if p = 'y' then "89ab".toList.contains c
    else c = p

/-- What is recognised at a place of a text: what stands for it, and what follows it. -/
abbrev Rule := List Char → Option (List Char × List Char)

def randomId : Rule := fun cs =>
  if isRandomId (cs.take 36) then some ("<uuid>".toList, cs.drop 36) else none

/-- A member of a rendered object, whose value may stand behind blanks. -/
def member? (name : String) (value : Rule) : Rule := fun cs => do
  let head := name.toList
  let rest ← Text.afterStart? head cs
  let (shown, rest) ← value (rest.dropWhile (· = ' ')) |>.map fun (a, b) =>
    (rest.takeWhile (· = ' ') ++ a, b)
  return (head ++ shown, rest)

def completedAt : Rule := member? "\"completed_at\":" fun
  | '"' :: cs => some ("\"<time>".toList, cs.dropWhile (· ≠ '"'))
  | _ => none

def duration : Rule := member? "\"duration\":" fun cs =>
  if (cs.takeWhile Char.isDigit).isEmpty then none else some (['0'], cs.dropWhile Char.isDigit)

/-- The line of a report that tells the duration. -/
def reportedDuration : Rule := fun cs =>
  (Text.afterStart? "- **duration**: ".toList cs).map fun rest =>
    ("- **duration**: <duration>".toList, rest.dropWhile (· ≠ '\n'))

/-- Goes through a text and puts in what the first matching rule says; the fuel counts the places. -/
def sweep (rules : List Rule) : Nat → List Char → List Char
  | 0, cs => cs
  | _, [] => []
  | n + 1, c :: cs =>
    match rules.findSome? fun r => r (c :: cs) with
    | some (shown, rest) => shown ++ sweep rules n rest
    | none => c :: sweep rules n cs

/-- A text without random identifiers. -/
def ids (s : String) : String := String.ofList (sweep [randomId] s.length s.toList)

/-- A text without random identifiers and readings of the clock. -/
def text (s : String) : String :=
  String.ofList (sweep [randomId, completedAt, duration, reportedDuration] s.length s.toList)

end Stable

namespace Json

mutual

/-- The same document with every text in it changed; names stay. -/
def mapTexts (f : String → String) : Json → Json
  | .text s => .text (f s)
  | .list items => .list (mapItems f items)
  | .object members => .object (mapMembers f members)
  | j => j

def mapItems (f : String → String) : List Json → List Json
  | [] => []
  | j :: js => mapTexts f j :: mapItems f js

def mapMembers (f : String → String) : List (String × Json) → List (String × Json)
  | [] => []
  | (name, j) :: ms => (name, mapTexts f j) :: mapMembers f ms

end

end Json
end Courier
