import Courier.Text.Case

/-!
Patterns over texts: character sets, sequence, choice, repetition and assertions about the place
between two characters. A pattern is matched by its partial derivatives: reading a character turns a
pattern into the patterns that the rest of the text may match. A pattern has finitely many of them, so
matching a text takes time linear in its length.
-/

namespace Courier

/-- Ranges of code points, or what is outside them; with `anyCase` a character counts when one of its
case variants does. -/
structure CharRanges where
  ranges : List (Nat × Nat)
  outside : Bool := false
  anyCase : Bool := false
  deriving DecidableEq

namespace CharRanges

def hit (ranges : List (Nat × Nat)) (c : Char) : Bool :=
  ranges.any fun r => r.1 ≤ c.toNat && c.toNat ≤ r.2

def contains (s : CharRanges) (c : Char) : Bool :=
  (if s.anyCase then (Text.caseVariants c).any (hit s.ranges) else hit s.ranges c) != s.outside

end CharRanges

/-- A union of ranges, or what is outside all of them. -/
structure CharSet where
  parts : List CharRanges
  outside : Bool := false
  deriving DecidableEq

namespace CharSet

def contains (s : CharSet) (c : Char) : Bool := (s.parts.any fun p => p.contains c) != s.outside

end CharSet

/-- What can be asked about a place in a text. -/
inductive Assertion
  | textStart | textEnd | lineStart | lineEnd | wordEdge | noWordEdge
  deriving DecidableEq

/-- A place in a text: the characters before and behind it. -/
structure Place where
  before : Option Char
  behind : Option Char

namespace Assertion

def isWord (c : Char) : Bool :=
  ('0' ≤ c && c ≤ '9') || ('A' ≤ c && c ≤ 'Z') || ('a' ≤ c && c ≤ 'z') || c = '_'

def holds (a : Assertion) (p : Place) : Bool :=
  match a with
  | .textStart => p.before.isNone
  | .textEnd => p.behind.isNone
  | .lineStart => p.before.isNone || p.before = some '\n'
  | .lineEnd => p.behind.isNone || p.behind = some '\n'
  | .wordEdge => p.before.any isWord != p.behind.any isWord
  | .noWordEdge => p.before.any isWord == p.behind.any isWord

end Assertion

inductive Pattern
  | empty
  | assert (a : Assertion)
  | set (s : CharSet)
  | seq (p q : Pattern)
  | alt (p q : Pattern)
  | star (p : Pattern)
  deriving DecidableEq

namespace Pattern

/-- Whether a pattern matches the empty text at a place. -/
def nullable (place : Place) : Pattern → Bool
  | .empty => true
  | .assert a => a.holds place
  | .set _ => false
  | .seq p q => nullable place p && nullable place q
  | .alt p q => nullable place p || nullable place q
  | .star _ => true

/-- A sequence, without an empty first part. -/
def andThen (p q : Pattern) : Pattern :=
  match p with
  | .empty => q
  | p => .seq p q

/-- What is left to match behind the character of a place. -/
def derivatives (place : Place) (c : Char) : Pattern → List Pattern
  | .empty => []
  | .assert _ => []
  | .set s => if s.contains c then [.empty] else []
  | .seq p q =>
    (derivatives place c p).map (fun d => andThen d q) ++
      (if nullable place p then derivatives place c q else [])
  | .alt p q => derivatives place c p ++ derivatives place c q
  | .star p => (derivatives place c p).map fun d => andThen d (.star p)

/-- Reads a text with a set of patterns at hand; a match may start at every place and end at every
place. -/
def searchFrom (p : Pattern) : Option Char → List Pattern → List Char → Bool
  | before, live, [] => (p :: live).any (nullable ⟨before, none⟩)
  | before, live, c :: cs =>
    let place : Place := ⟨before, some c⟩
    let all := p :: live
    all.any (nullable place) ||
      searchFrom p (some c) ((all.flatMap (derivatives place c)).eraseDups) cs

/-- Whether a pattern matches somewhere in a text. -/
def occursIn (p : Pattern) (s : String) : Bool := searchFrom p none [] s.toList

end Pattern
end Courier
