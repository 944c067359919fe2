import Courier.Json.Basic

/-!
Reading JSON documents. The reader is a recursion on the characters with a fuel that the length of
the text bounds: every step that does not end takes at least one character off.
-/

namespace Courier.Json

def isSpace (c : Char) : Bool := c = ' ' || c = '\t' || c = '\n' || c = '\r'

def skipSpace (cs : List Char) : List Char := cs.dropWhile isSpace

def hexValue (c : Char) : Option Nat :=
  if '0' ≤ c ∧ c ≤ '9' then some (c.toNat - 48)
  else if 'a' ≤ c ∧ c ≤ 'f' then some (c.toNat - 87)
  else if 'A' ≤ c ∧ c ≤ 'F' then some (c.toNat - 55)
  else none

/-- Reads four hexadecimal digits. -/
def readHex4 : List Char → Option (Nat × List Char)
  | a :: b :: c :: d :: cs => do
    let a ← hexValue a
    let b ← hexValue b
    let c ← hexValue c
    let d ← hexValue d
    some (a * 4096 + b * 256 + c * 16 + d, cs)
  | _ => none

/-- The code point of an escaped surrogate pair. A surrogate on its own gives the replacement
character, and what follows it is left to be read. -/
def joinSurrogates (hi : Nat) (cs : List Char) : Char × List Char :=
  let lone := (Char.ofNat 0xfffd, cs)
  if hi < 0xd800 ∨ 0xdfff < hi then (Char.ofNat hi, cs)
  else if 0xdc00 ≤ hi then lone
  else match cs with
    | '\\' :: 'u' :: rest =>
      match readHex4 rest with
      | some (lo, rest') =>
        if 0xdc00 ≤ lo ∧ lo ≤ 0xdfff then
          (Char.ofNat (0x10000 + (hi - 0xd800) * 0x400 + (lo - 0xdc00)), rest')
        else lone
      | none => lone
    | _ => lone

/-- The character of a one-letter escape. -/
def simpleEscape (c : Char) : Option Char :=
  if c = '"' ∨ c = '\\' ∨ c = '/' then some c
  else if c = 'b' then some (Char.ofNat 8)
  else if c = 'f' then some (Char.ofNat 12)
  else if c = 'n' then some '\n'
  else if c = 'r' then some '\r'
  else if c = 't' then some '\t'
  else none

/-- Reads a string up to its closing quote. -/
def readString : Nat → List Char → List Char → Option (String × List Char)
  | 0, _, _ => none
  | _ + 1, _, [] => none
  | fuel + 1, acc, c :: cs =>
    if c = '"' then some (String.ofList acc.reverse, cs)
    else if c = '\\' then
      match cs with
      | 'u' :: rest =>
        match readHex4 rest with
        | some (n, rest) =>
          let r := joinSurrogates n rest
          readString fuel (r.1 :: acc) r.2
        | none => none
      | e :: rest =>
        match simpleEscape e with
        | some d => readString fuel (d :: acc) rest
        | none => none
      | [] => none
    else if c.toNat < 0x20 then none
    else readString fuel (c :: acc) cs

def isDigit (c : Char) : Bool := '0' ≤ c && c ≤ '9'

/-- An optional minus, and what follows it. -/
def readMinus : List Char → List Char × List Char
  | '-' :: cs => (['-'], cs)
  | cs => ([], cs)

/-- The digits in front: a zero stands alone. -/
def wholeDigits : List Char → List Char
  | '0' :: _ => ['0']
  | cs => cs.takeWhile isDigit

/-- Reads an optional fraction: a point and at least one digit. -/
def readFraction : List Char → Option (List Char × List Char)
  | '.' :: cs =>
    let ds := cs.takeWhile isDigit
    if ds.isEmpty then none else some ('.' :: ds, cs.drop ds.length)
  | cs => some ([], cs)

/-- The optional sign of an exponent, and what follows it. -/
def readSign : List Char → List Char × List Char
  | '+' :: cs => (['+'], cs)
  | '-' :: cs => (['-'], cs)
  | cs => ([], cs)

/-- Reads an optional exponent: its mark, a sign and at least one digit. -/
def readExponent : List Char → Option (List Char × List Char)
  | e :: cs =>
    if e = 'e' ∨ e = 'E' then
      let (s, cs) := readSign cs
      let ds := cs.takeWhile isDigit
      if ds.isEmpty then none else some (e :: (s ++ ds), cs.drop ds.length)
    else some ([], e :: cs)
  | [] => some ([], [])

/-- Reads a number and keeps its characters: an optional minus, digits without a leading zero, an
optional fraction and an optional exponent. -/
def readNumber (cs : List Char) : Option (String × List Char) :=
  let (sign, cs) := readMinus cs
  let whole := wholeDigits cs
  if whole.isEmpty then none
  else do
    let (fraction, cs) ← readFraction (cs.drop whole.length)
    let (exponent, cs) ← readExponent cs
    some (String.ofList (sign ++ whole ++ fraction ++ exponent), cs)

/-- Reads one of the three words. -/
def readWord (cs : List Char) : Option (Json × List Char) :=
  match cs with
  | 'n' :: 'u' :: 'l' :: 'l' :: rest => some (.null, rest)
  | 't' :: 'r' :: 'u' :: 'e' :: rest => some (.bool true, rest)
  | 'f' :: 'a' :: 'l' :: 's' :: 'e' :: rest => some (.bool false, rest)
  | _ => none

mutual
/-- Reads one value behind optional blanks. -/
def readValue : Nat → List Char → Option (Json × List Char)
  | 0, _ => none
  | fuel + 1, cs =>
    match skipSpace cs with
    | [] => none
    | '"' :: rest => (readString (rest.length + 1) [] rest).map fun r => (.text r.1, r.2)
    | '[' :: rest =>
      match skipSpace rest with
      | ']' :: rest => some (.list [], rest)
      | rest => (readItems fuel rest).map fun r => (.list r.1, r.2)
    | '{' :: rest =>
      match skipSpace rest with
      | '}' :: rest => some (.object [], rest)
      | rest => (readMembers fuel rest).map fun r => (.object r.1, r.2)
    | c :: rest =>
      if c = '-' ∨ isDigit c then (readNumber (c :: rest)).map fun r => (.number r.1, r.2)
      else readWord (c :: rest)
/-- Reads the items of a list and its closing bracket. -/
def readItems : Nat → List Char → Option (List Json × List Char)
  | 0, _ => none
  | fuel + 1, cs =>
    match readValue fuel cs with
    | none => none
    | some (j, rest) =>
      match skipSpace rest with
      | ',' :: rest => (readItems fuel rest).map fun r => (j :: r.1, r.2)
      | ']' :: rest => some ([j], rest)
      | _ => none
/-- Reads the members of an object and its closing brace. -/
def readMembers : Nat → List Char → Option (List (String × Json) × List Char)
  | 0, _ => none
  | fuel + 1, cs =>
    match skipSpace cs with
    | '"' :: rest =>
      match readString (rest.length + 1) [] rest with
      | none => none
      | some (k, rest) =>
        match skipSpace rest with
        | ':' :: rest =>
          match readValue fuel rest with
          | none => none
          | some (j, rest) =>
            match skipSpace rest with
            | ',' :: rest => (readMembers fuel rest).map fun r => ((k, j) :: r.1, r.2)
            | '}' :: rest => some ([(k, j)], rest)
            | _ => none
        | _ => none
    | _ => none
end

/-- The first value of a text and what follows it. -/
def readFirst? (cs : List Char) : Option (Json × List Char) :=
  readValue (2 * cs.length + 2) cs

/-- The one value of a text, with nothing but blanks around it. Values may be nested to any depth; that
decoders give up at some depth, commonly behind 10000 levels, is left out. -/
def parse? (s : String) : Option Json :=
  match readFirst? s.toList with
  | some (j, rest) => if (skipSpace rest).isEmpty then some j else none
  | none => none

end Courier.Json
