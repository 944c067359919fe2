/-!
Letter case. The words that are compared without regard to case are all written in ASCII letters, so
it is enough to know which characters fold to one: the ASCII capitals and two letters outside ASCII.
-/

namespace Courier.Text

/-- The lower case of a character as far as it is an ASCII letter. -/
def lowerChar (c : Char) : Char :=
  if 'A' ≤ c ∧ c ≤ 'Z' then Char.ofNat (c.toNat + 32)
  else if c.toNat = 0x130 then 'i'
  else if c.toNat = 0x212a then 'k'
  else c

/-- The text with ASCII capitals, the dotted capital i and the kelvin sign in lower case. -/
def lower (s : String) : String := String.ofList (s.toList.map lowerChar)

/-- The ASCII letter a character is a case variant of: its lower case, `s` for the long s and `k`
for the kelvin sign. -/
def foldChar (c : Char) : Char :=
  if 'A' ≤ c ∧ c ≤ 'Z' then Char.ofNat (c.toNat + 32)
  else if c.toNat = 0x17f then 's'
  else if c.toNat = 0x212a then 'k'
  else c

/-- Equality up to case, for a `word` of ASCII characters. -/
def foldEq (word s : String) : Bool :=
  word.toList.map foldChar = s.toList.map foldChar

end Courier.Text
