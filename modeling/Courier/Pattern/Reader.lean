import Courier.Pattern.Classes

/-!
The written form of patterns. Groups, flags and repetition are read with a stack of open groups; a
repetition applies to the item in front of it and cannot follow another one.
-/

namespace Courier.Pattern

inductive Error
  | missingBracket | missingParen | unexpectedParen | missingArgument | repeatOp | repeatSize
  | escape | charRange | trailingBackslash | perlSyntax | namedCapture
  deriving DecidableEq

def Error.text : Error → String
  | .missingBracket => "missing closing ]"
  | .missingParen => "missing closing )"
  | .unexpectedParen => "unexpected )"
  | .missingArgument => "missing argument to repetition operator"
  | .repeatOp => "invalid nested repetition operator"
  | .repeatSize => "invalid repeat count"
  | .escape => "invalid escape sequence"
  | .charRange => "invalid character class range"
  | .trailingBackslash => "trailing backslash at end of expression"
  | .perlSyntax => "invalid or unsupported Perl syntax"
  | .namedCapture => "invalid named capture"

structure Flags where
  anyCase : Bool := false
  lines : Bool := false
  dotAll : Bool := false

def isAlnum (c : Char) : Bool :=
  ('0' ≤ c && c ≤ '9') || ('A' ≤ c && c ≤ 'Z') || ('a' ≤ c && c ≤ 'z')

def octal? (c : Char) : Option Nat := if '0' ≤ c ∧ c ≤ '7' then some (c.toNat - 48) else none

/-- Reads up to `n` more octal digits. -/
def readOctal : Nat → Nat → List Char → Nat × List Char
  | 0, v, cs => (v, cs)
  | _ + 1, v, [] => (v, [])
  | n + 1, v, c :: cs =>
    match octal? c with
    | some d => readOctal n (v * 8 + d) cs
    | none => (v, c :: cs)

/-- Reads hexadecimal digits up to a closing brace. -/
def readBraced : Nat → Bool → List Char → Option (Nat × List Char)
  | _, _, [] => none
  | v, some_, c :: cs =>
    if c = '}' then if some_ then some (v, cs) else none
    else
      match Json.hexValue c with
      | some d => if 0x10ffff < v * 16 + d then none else readBraced (v * 16 + d) true cs
      | none => none

/-- Reads an escaped character behind its backslash. -/
def readEscape : List Char → Except Error (Nat × List Char)
  | [] => .error .trailingBackslash
  | c :: cs =>
    if c.toNat < 0x80 ∧ !isAlnum c then .ok (c.toNat, cs)
    else if c = '0' then .ok (readOctal 2 0 cs)
    else if '1' ≤ c ∧ c ≤ '7' then
      if (cs.head?.bind octal?).isSome then .ok (readOctal 2 (c.toNat - 48) cs) else .error .escape
    else if c = 'x' then
      match cs with
      | '{' :: rest =>
        match readBraced 0 false rest with
        | some r => .ok r
        | none => .error .escape
      | a :: b :: rest =>
        match Json.hexValue a, Json.hexValue b with
        | some x, some y => .ok (x * 16 + y, rest)
        | _, _ => .error .escape
      | _ => .error .escape
    else if c = 'a' then .ok (7, cs)
    else if c = 'f' then .ok (12, cs)
    else if c = 'n' then .ok (10, cs)
    else if c = 'r' then .ok (13, cs)
    else if c = 't' then .ok (9, cs)
    else if c = 'v' then .ok (11, cs)
    else .error .escape

/-- Reads the name of a Unicode class behind `\p` or `\P`. -/
def readUnicode (anyCase outside : Bool) (cs : List Char) : Except Error (CharRanges × List Char) :=
  let (name, rest) : Option (List Char) × List Char := match cs with
    | '{' :: inner =>
      match Text.cutChars '}' inner with
      | (name, some rest) => (some name, rest)
      | (_, none) => (none, [])
    | c :: rest => (some [c], rest)
    | [] => (none, [])
  match name with
  | none => .error .charRange
  | some name =>
    let (negated, name) := match name with
      | '^' :: n => (true, n)
      | n => (false, n)
    match unicodeClass? name with
    | some (rs, out) => .ok (⟨rs, out != (outside != negated), anyCase⟩, rest)
    | none => .error .charRange

/-- Reads a character of a bracketed class. -/
def readClassChar : List Char → Except Error (Nat × List Char)
  | [] => .error .missingBracket
  | '\\' :: cs => readEscape cs
  | c :: cs => .ok (c.toNat, cs)

/-- Reads a single character of a class or a range of them. -/
def readClassRange (anyCase : Bool) (cs : List Char) : Except Error (CharRanges × List Char) := do
  let (low, rest) ← readClassChar cs
  match rest with
  | '-' :: d :: more =>
    if d = ']' then .ok (⟨[(low, low)], false, anyCase⟩, rest)
    else
      let (high, rest) ← readClassChar (d :: more)
      if high < low then .error .charRange else .ok (⟨[(low, high)], false, anyCase⟩, rest)
  | _ => .ok (⟨[(low, low)], false, anyCase⟩, rest)

/-- The name of an ASCII class up to its `:]`. -/
def asciiName : List Char → Option (List Char × List Char)
  | ':' :: ']' :: cs => some ([], cs)
  | c :: cs => (asciiName cs).map fun r => (c :: r.1, r.2)
  | [] => none

/-- Reads one part of a bracketed class. -/
def readClassPart (anyCase : Bool) (cs : List Char) : Except Error (CharRanges × List Char) :=
  match cs with
  | '[' :: ':' :: inner =>
    match asciiName inner with
    | none => readClassRange anyCase cs
    | some (name, rest) =>
      let (outside, name) := match name with
        | '^' :: n => (true, n)
        | n => (false, n)
      match asciiClass? (String.ofList name) with
      | some rs => .ok (⟨rs, outside, anyCase⟩, rest)
      | none => .error .charRange
  | '\\' :: c :: rest =>
    if c = 'p' ∨ c = 'P' then readUnicode anyCase (c = 'P') rest
    else
      match escapeClass? c with
      | some (rs, outside) => .ok (⟨rs, outside, anyCase⟩, rest)
      | none => readClassRange anyCase cs
  | cs => readClassRange anyCase cs

/-- Reads the parts of a bracketed class up to its end; a bracket that comes first is a part. -/
def readClassParts (anyCase : Bool) : Nat → Bool → List Char →
    Except Error (List CharRanges × List Char)
  | 0, _, _ => .error .missingBracket
  | fuel + 1, first, cs => do
    match first, cs with
    | false, ']' :: rest => .ok ([], rest)
    | _, cs =>
      let (part, rest) ← readClassPart anyCase cs
      let (parts, rest) ← readClassParts anyCase fuel false rest
      .ok (part :: parts, rest)

/-- Reads a bracketed class behind its opening bracket. -/
def readClass (anyCase : Bool) (cs : List Char) : Except Error (CharSet × List Char) := do
  let (outside, cs) := match cs with
    | '^' :: r => (true, r)
    | r => (false, r)
  let (parts, rest) ← readClassParts anyCase (cs.length + 1) true cs
  .ok (⟨parts, outside⟩, rest)

/-- Digits without a leading zero; none for a number that is far too large. -/
def readCount (cs : List Char) : Option (Option Nat × List Char) :=
  let ds := cs.takeWhile fun c => '0' ≤ c && c ≤ '9'
  if ds.isEmpty ∨ (1 < ds.length ∧ ds.head? = some '0') then none
  else
    let n := ds.foldl (fun n c => n * 10 + (c.toNat - 48)) 0
    some (if n < 100000000 then some n else none, cs.drop ds.length)

/-- Bounds of a counted repetition; an absent upper bound is none, and numbers that are far too large
are 1001. -/
def readBounds (cs : List Char) : Option (Nat × Option Nat × List Char) := do
  let (low, cs) ← readCount cs
  let low := low.getD 1001
  match cs with
  | '}' :: rest => some (low, some low, rest)
  | ',' :: '}' :: rest => some (low, none, rest)
  | ',' :: cs =>
    let (high, cs) ← readCount cs
    match cs with
    | '}' :: rest => some (low, some (high.getD 1001), rest)
    | _ => none
  | _ => none

/-- An item of a pattern, with the largest number of copies that nested counts ask for. -/
structure Item where
  pattern : Pattern
  weight : Nat := 1

/-- A group that is open: the choices before the current one, and the items of that, last first. -/
structure Group where
  choices : List Item := []
  items : List Item := []
  flags : Flags := {}

/-- Reading a pattern: the innermost group, the groups around it, and whether the last thing read was a
repetition. -/
structure Reading where
  group : Group := {}
  outer : List Group := []
  repeated : Bool := false

def larger (a b : Nat) : Nat := if a < b then b else a

/-- The items of a choice as one. -/
def joined (items : List Item) : Item :=
  match items with
  | [] => ⟨.empty, 1⟩
  | i :: is => is.foldl (fun acc x => ⟨.seq x.pattern acc.pattern, larger x.weight acc.weight⟩) i

def Group.item (g : Group) : Item :=
  (g.choices.reverse).foldr
    (fun x acc => ⟨.alt x.pattern acc.pattern, larger x.weight acc.weight⟩) (joined g.items)

def Reading.push (r : Reading) (p : Pattern) : Reading :=
  { r with group := { r.group with items := ⟨p, 1⟩ :: r.group.items }, repeated := false }

def Reading.literal (r : Reading) (n : Nat) : Reading :=
  r.push (.set ⟨[⟨[(n, n)], false, r.group.flags.anyCase⟩], false⟩)

def copies (p : Pattern) : Nat → Pattern
  | 0 => .empty
  | 1 => p
  | n + 1 => .seq p (copies p n)

/-- Up to `n` copies. -/
def upTo (p : Pattern) : Nat → Pattern
  | 0 => .empty
  | n + 1 => .alt (.seq p (upTo p n)) .empty

/-- A pattern repeated between bounds. -/
def repeated (p : Pattern) (low : Nat) : Option Nat → Pattern
  | none => andThen (copies p low) (.star p)
  | some high => andThen (copies p low) (upTo p (high - low))

/-- Repeats the last item. -/
def Reading.repeat (r : Reading) (low : Nat) (high : Option Nat) (counted : Bool) :
    Except Error Reading :=
  if r.repeated then .error .repeatOp
  else
    match r.group.items with
    | [] => .error .missingArgument
    | i :: is =>
      let count := high.getD low
      let weight := if !counted ∨ high = none ∧ low = 0 then i.weight else count * i.weight
      if counted ∧ 2 ≤ count ∧ 1000 < weight then .error .repeatSize
      else
        .ok { r with
          group := { r.group with items := ⟨Pattern.repeated i.pattern low high, weight⟩ :: is },
          repeated := true }

def Reading.openGroup (r : Reading) (inner : Flags) : Reading :=
  { group := { flags := inner }, outer := r.group :: r.outer, repeated := false }

/-- Reads flags behind `(?` up to a colon or a closing parenthesis; `on` is the sign in force. -/
def readFlags (on seen : Bool) (f : Flags) : List Char → Except Error (Flags × Bool × List Char)
  | [] => .error .perlSyntax
  | c :: cs =>
    if c = 'i' then readFlags on true { f with anyCase := on } cs
    else if c = 'm' then readFlags on true { f with lines := on } cs
    else if c = 's' then readFlags on true { f with dotAll := on } cs
    else if c = 'U' then readFlags on true f cs
    else if c = '-' then if on then readFlags false false f cs else .error .perlSyntax
    else if c = ':' ∨ c = ')' then
      if !on ∧ !seen then .error .perlSyntax else .ok (f, c = ':', cs)
    else .error .perlSyntax

/-- Reads what follows `(?`: a named group, a group with flags, or flags for the rest of the group. -/
def Reading.extended (r : Reading) (cs : List Char) : Except Error (Reading × List Char) :=
  let named : Option (List Char) := match cs with
    | 'P' :: '<' :: rest => some rest
    | '<' :: rest => some rest
    | _ => none
  match named with
  | some rest =>
    match Text.cutChars '>' rest with
    | (name, some rest) =>
      if !name.isEmpty ∧ name.all (fun c => isAlnum c || c = '_') then
        .ok (r.openGroup r.group.flags, rest)
      else .error .namedCapture
    | (_, none) => .error .namedCapture
  | none =>
    match readFlags true false r.group.flags cs with
    | .error e => .error e
    | .ok (f, true, rest) => .ok (r.openGroup f, rest)
    | .ok (f, false, rest) =>
      .ok ({ r with group := { r.group with flags := f }, repeated := false }, rest)

def Reading.closeGroup (r : Reading) : Except Error Reading :=
  match r.outer with
  | [] => .error .unexpectedParen
  | g :: gs => .ok { group := { g with items := r.group.item :: g.items }, outer := gs }

/-- Splits quoted text at its `\E`. -/
def quotedPart : List Char → List Char × List Char
  | '\\' :: 'E' :: cs => ([], cs)
  | c :: cs => ((c :: (quotedPart cs).1), (quotedPart cs).2)
  | [] => ([], [])

/-- Reads what follows a backslash. -/
def Reading.escaped (r : Reading) (cs : List Char) : Except Error (Reading × List Char) :=
  match cs with
  | [] => .error .trailingBackslash
  | c :: rest =>
    if c = 'A' then .ok (r.push (.assert .textStart), rest)
    else if c = 'z' then .ok (r.push (.assert .textEnd), rest)
    else if c = 'b' then .ok (r.push (.assert .wordEdge), rest)
    else if c = 'B' then .ok (r.push (.assert .noWordEdge), rest)
    else if c = 'Q' then
      let (quoted, rest) := quotedPart rest
      .ok (quoted.foldl (fun r c => r.literal c.toNat) { r with repeated := false }, rest)
    else if c = 'p' ∨ c = 'P' then
      match readUnicode r.group.flags.anyCase (c = 'P') rest with
      | .error e => .error e
      | .ok (s, rest) => .ok (r.push (.set ⟨[s], false⟩), rest)
    else
      match escapeClass? c with
      | some (rs, outside) =>
        .ok (r.push (.set ⟨[⟨rs, outside, r.group.flags.anyCase⟩], false⟩), rest)
      | none =>
        match readEscape cs with
        | .error e => .error e
        | .ok (n, rest) => .ok (r.literal n, rest)

/-- Skips the mark of a repetition that prefers fewer copies; it does not change what matches. -/
def afterLazy : List Char → List Char
  | '?' :: cs => cs
  | cs => cs

/-- Reads one thing. -/
def Reading.step (r : Reading) (c : Char) (cs : List Char) : Except Error (Reading × List Char) :=
  let f := r.group.flags
  if c = '(' then
    match cs with
    | '?' :: rest => r.extended rest
    | _ => .ok (r.openGroup f, cs)
  else if c = ')' then r.closeGroup.map fun r => (r, cs)
  else if c = '|' then
    .ok ({ r with group := { r.group with choices := joined r.group.items :: r.group.choices, items := [] },
                  repeated := false }, cs)
  else if c = '^' then .ok (r.push (.assert (if f.lines then .lineStart else .textStart)), cs)
  else if c = '$' then .ok (r.push (.assert (if f.lines then .lineEnd else .textEnd)), cs)
  else if c = '.' then
    .ok (r.push (.set (if f.dotAll then ⟨[], true⟩ else ⟨[⟨[(10, 10)], false, false⟩], true⟩)), cs)
  else if c = '[' then
    match readClass f.anyCase cs with
    | .error e => .error e
    | .ok (s, rest) => .ok (r.push (.set s), rest)
  else if c = '*' then (r.repeat 0 none false).map fun r => (r, afterLazy cs)
  else if c = '+' then (r.repeat 1 none false).map fun r => (r, afterLazy cs)
  else if c = '?' then (r.repeat 0 (some 1) false).map fun r => (r, afterLazy cs)
  else if c = '{' then
    match readBounds cs with
    | none => .ok (r.literal c.toNat, cs)
    | some (low, high, rest) =>
      if 1000 < low ∨ high.any (fun h => 1000 < h || h < low) then .error .repeatSize
      else (r.repeat low high true).map fun r => (r, afterLazy rest)
  else if c = '\\' then r.escaped cs
  else .ok (r.literal c.toNat, cs)

/-- Reads to the end of the text; each step takes a character at least. -/
def Reading.run : Nat → Reading → List Char → Except Error Reading
  | 0, r, _ => .ok r
  | _ + 1, r, [] => .ok r
  | fuel + 1, r, c :: cs =>
    match r.step c cs with
    | .error e => .error e
    | .ok (r, rest) => run fuel r rest

/-- Reads a pattern. -/
def parse (s : String) : Except Error Pattern :=
  match Reading.run s.toList.length {} s.toList with
  | .error e => .error e
  | .ok r => if r.outer.isEmpty then .ok r.group.item.pattern else .error .missingParen

end Courier.Pattern
