import Courier.Pattern.Basic
import Courier.Text.Category
import Courier.Text.Fold

/-!
Character classes by name: the escapes of one letter, the bracketed ASCII classes, and the Unicode
categories and scripts.
-/

namespace Courier.Pattern

def digitRanges : List (Nat × Nat) := [(0x30, 0x39)]

def wordRanges : List (Nat × Nat) := [(0x30, 0x39), (0x41, 0x5a), (0x5f, 0x5f), (0x61, 0x7a)]

def spaceRanges : List (Nat × Nat) := [(0x09, 0x0a), (0x0c, 0x0d), (0x20, 0x20)]

/-- The class of an escape such as `\d`, and whether it means what is outside. -/
def escapeClass? (c : Char) : Option (List (Nat × Nat) × Bool) :=
  if c = 'd' then some (digitRanges, false)
  else if c = 'D' then some (digitRanges, true)
  else if c = 's' then some (spaceRanges, false)
  else if c = 'S' then some (spaceRanges, true)
  else if c = 'w' then some (wordRanges, false)
  else if c = 'W' then some (wordRanges, true)
  else none

/-- The ASCII classes. -/
def asciiClass? (name : String) : Option (List (Nat × Nat)) :=
  if name = "alnum" then some [(0x30, 0x39), (0x41, 0x5a), (0x61, 0x7a)]
  else if name = "alpha" then some [(0x41, 0x5a), (0x61, 0x7a)]
  else if name = "ascii" then some [(0, 0x7f)]
  else if name = "blank" then some [(0x09, 0x09), (0x20, 0x20)]
  else if name = "cntrl" then some [(0, 0x1f), (0x7f, 0x7f)]
  else if name = "digit" then some digitRanges
  else if name = "graph" then some [(0x21, 0x7e)]
  else if name = "lower" then some [(0x61, 0x7a)]
  else if name = "print" then some [(0x20, 0x7e)]
  else if name = "punct" then some [(0x21, 0x2f), (0x3a, 0x40), (0x5b, 0x60), (0x7b, 0x7e)]
  else if name = "space" then some [(0x09, 0x0d), (0x20, 0x20)]
  else if name = "upper" then some [(0x41, 0x5a)]
  else if name = "word" then some wordRanges
  else if name = "xdigit" then some [(0x30, 0x39), (0x41, 0x46), (0x61, 0x66)]
  else none

/-- Long names of categories. -/
def categoryNames : List (String × String) :=
  [("letter", "l"), ("uppercaseletter", "lu"), ("lowercaseletter", "ll"), ("titlecaseletter", "lt"),
    ("casedletter", "lc"), ("modifierletter", "lm"), ("otherletter", "lo"), ("mark", "m"),
    ("combiningmark", "m"), ("nonspacingmark", "mn"), ("spacingmark", "mc"), ("enclosingmark", "me"),
    ("number", "n"), ("decimalnumber", "nd"), ("digit", "nd"), ("letternumber", "nl"),
    ("othernumber", "no"), ("punctuation", "p"), ("punct", "p"), ("connectorpunctuation", "pc"),
    ("dashpunctuation", "pd"), ("openpunctuation", "ps"), ("closepunctuation", "pe"),
    ("initialpunctuation", "pi"), ("finalpunctuation", "pf"), ("otherpunctuation", "po"),
    ("symbol", "s"), ("mathsymbol", "sm"), ("currencysymbol", "sc"), ("modifiersymbol", "sk"),
    ("othersymbol", "so"), ("separator", "z"), ("spaceseparator", "zs"), ("lineseparator", "zl"),
    ("paragraphseparator", "zp"), ("other", "c"), ("control", "cc"), ("cntrl", "cc"),
    ("format", "cf"), ("surrogate", "cs"), ("privateuse", "co"), ("unassigned", "cn")]

/-- A name in lower case without blanks, hyphens and underscores. -/
def plainName (cs : List Char) : String :=
  Text.lower (String.ofList (cs.filter fun c => c ≠ ' ' && c ≠ '_' && c ≠ '-'))

def surrogateRanges : List (Nat × Nat) := [(0xd800, 0xdfff)]

def privateRanges : List (Nat × Nat) := [(0xe000, 0xf8ff), (0xf0000, 0xffffd), (0x100000, 0x10fffd)]

/-- The assigned code points. -/
def assignedRanges : List (Nat × Nat) :=
  Text.categories.flatMap Prod.snd ++ surrogateRanges ++ privateRanges

/-- The ranges of a category or script, and whether what is outside them is meant. -/
def unicodeClass? (cs : List Char) : Option (List (Nat × Nat) × Bool) :=
  let name := plainName cs
  let name := match categoryNames.find? fun n => n.1 = name with
    | some n => n.2
    | none => name
  let inside := fun (rs : List (Nat × Nat)) => some (rs, false)
  let union := fun (p : String → Bool) =>
    (Text.categories.filter fun c => p (Text.lower c.1)).flatMap Prod.snd
  if name = "any" then inside [(0, 0x10ffff)]
  else if name = "ascii" then inside [(0, 0x7f)]
  else if name = "assigned" then inside assignedRanges
  else if name = "cn" then some (assignedRanges, true)
  else if name = "co" then inside privateRanges
  else if name = "cs" then inside surrogateRanges
  else if name = "c" then inside (union (Text.startsWith "c") ++ surrogateRanges ++ privateRanges)
  else if name = "lc" then inside (union fun c => c = "lu" || c = "ll" || c = "lt")
  else if ["l", "m", "n", "p", "s", "z"].contains name then inside (union (Text.startsWith name))
  else
    match Text.categories.find? fun c => Text.lower c.1 = name with
    | some c => inside c.2
    | none =>
      match Text.scripts.find? fun c => Text.lower c.1 = name with
      | some c => inside c.2
      | none => none

end Courier.Pattern
