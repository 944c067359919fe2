import Courier.Json.Reader
import Courier.Yaml.Cursor

/-!
The characters of a YAML scalar: plain, quoted, or a block. Line breaks inside plain and quoted scalars
fold: one becomes a blank, and of more the first one is dropped.
-/

namespace Courier.Yaml

/-- Why a text is no YAML document. -/
inductive Error
  | control
  | tabIndent
  | openQuote
  | documentMark
  | badEscape
  | blockHeader
  | badCharacter
  | notAllowed (what : String)
  | missingColon
  | directive
  | anchor
  | tag
  | version
  | unexpected (what : String)
  | unknownAnchor (name : String)
  | unknownHandle (handle : String)
  | repeatedKey (key : String)
  | badKey
  | badMerge
  | badScalar (text tag : String)
  | wrongType (what : String)

def Error.message : Error → String
  | .control => "control characters are not allowed"
  | .tabIndent => "found a tab character that violates indentation"
  | .openQuote => "found unexpected end of stream"
  | .documentMark => "found unexpected document indicator"
  | .badEscape => "found unknown escape character"
  | .blockHeader => "did not find expected comment or line break"
  | .badCharacter => "found character that cannot start any token"
  | .notAllowed what => what ++ " are not allowed in this context"
  | .missingColon => "could not find expected ':'"
  | .directive => "found a malformed directive"
  | .anchor => "did not find expected alphabetic or numeric character"
  | .tag => "did not find expected tag URI"
  | .version => "found incompatible YAML document"
  | .unexpected what => "did not find expected " ++ what
  | .unknownAnchor n => "unknown anchor '" ++ n ++ "' referenced"
  | .unknownHandle h => "found undefined tag handle " ++ h
  | .repeatedKey k => "mapping key \"" ++ k ++ "\" already defined"
  | .badKey => "invalid map key"
  | .badMerge => "map merge requires map or sequence of maps as the value"
  | .badScalar t w => "cannot decode " ++ t ++ " as a " ++ w
  | .wrongType what => "cannot unmarshal " ++ what

/-- Blanks and line breaks between the words of a scalar. -/
structure Gap where
  spaces : List Char := []
  firstBreak : List Char := []
  moreBreaks : List Char := []
  broken : Bool := false

/-- What a gap folds to. -/
def Gap.text (g : Gap) : List Char :=
  if g.broken then
    if g.firstBreak.head? = some '\n' then
      if g.moreBreaks.isEmpty then [' '] else g.moreBreaks
    else g.firstBreak ++ g.moreBreaks
  else g.spaces

/-- Reads a gap. In a plain scalar a tab left of `limit` on a later line is refused. -/
def readGap (limit : Option Nat) : Nat → Cursor → Gap → Except Error (Cursor × Gap)
  | 0, c, g => .ok (c, g)
  | fuel + 1, c, g =>
    match c.rest with
    | [] => .ok (c, g)
    | x :: _ =>
      if isBlank x then
        match limit with
        | some n =>
          if g.broken ∧ c.column < n ∧ x = '\t' then .error .tabIndent
          else readGap limit fuel c.skip (if g.broken then g else { g with spaces := g.spaces ++ [x] })
        | none =>
          readGap limit fuel c.skip (if g.broken then g else { g with spaces := g.spaces ++ [x] })
      else if isBreak x then
        let t := c.breakText
        let g := if g.broken then { g with moreBreaks := g.moreBreaks ++ t }
          else { g with spaces := [], firstBreak := g.firstBreak ++ t, broken := true }
        readGap limit fuel c.skipLine g
      else .ok (c, g)

/-- Characters that end a plain scalar inside flow brackets. -/
def endsFlowWord (c : Char) : Bool :=
  c = ',' || c = '?' || c = '[' || c = ']' || c = '{' || c = '}'

/-- The word at the front of a plain scalar. -/
def plainWord (inFlow : Bool) : List Char → List Char
  | [] => []
  | x :: cs =>
    if isBlank x || isBreak x || (x = ':' && endsWord cs) || (inFlow && endsFlowWord x) then []
    else x :: plainWord inFlow cs

/-- A scanned scalar, and whether the last thing read was a line break. -/
structure Scanned where
  cursor : Cursor
  text : List Char
  broken : Bool

/-- Reads words and gaps of a plain scalar whose lines start at column `indent` or later. -/
def readPlain (inFlow : Bool) (indent : Nat) : Nat → Cursor → List Char → Gap → Except Error Scanned
  | 0, c, text, g => .ok ⟨c, text, g.broken⟩
  | fuel + 1, c, text, g =>
    if c.atDocumentMark || c.peek = some '#' then .ok ⟨c, text, g.broken⟩
    else
      let word := plainWord inFlow c.rest
      let c := c.skipMany word.length
      let text := if word.isEmpty then text else text ++ g.text ++ word
      let g := if word.isEmpty then g else {}
      match c.rest with
      | [] => .ok ⟨c, text, g.broken⟩
      | x :: _ =>
        if isBlank x || isBreak x then
          match readGap (some indent) c.rest.length c g with
          | .error e => .error e
          | .ok (c, g) =>
            if !inFlow && c.column < indent then .ok ⟨c, text, g.broken⟩
            else readPlain inFlow indent fuel c text g
        else .ok ⟨c, text, g.broken⟩

/-- The character of a one-letter escape in double quotes. -/
def escapeOf (c : Char) : Option Char :=
  if c = '0' then some (Char.ofNat 0)
  else if c = 'a' then some (Char.ofNat 7)
  else if c = 'b' then some (Char.ofNat 8)
  else if c = 't' ∨ c = '\t' then some '\t'
  else if c = 'n' then some '\n'
  else if c = 'v' then some (Char.ofNat 0x0b)
  else if c = 'f' then some (Char.ofNat 0x0c)
  else if c = 'r' then some '\r'
  else if c = 'e' then some (Char.ofNat 0x1b)
  else if c = ' ' ∨ c = '"' ∨ c = '\'' ∨ c = '\\' ∨ c = '/' then some c
  else if c = 'N' then some (Char.ofNat 0x85)
  else if c = '_' then some (Char.ofNat 0xa0)
  else if c = 'L' then some (Char.ofNat 0x2028)
  else if c = 'P' then some (Char.ofNat 0x2029)
  else none

/-- The number of hexadecimal digits an escape letter is followed by. -/
def escapeDigits (c : Char) : Nat :=
  if c = 'x' then 2 else if c = 'u' then 4 else if c = 'U' then 8 else 0

/-- The number written in a list of hexadecimal digits. -/
def hexNumber : Nat → List Char → Option Nat
  | acc, [] => some acc
  | acc, c :: cs =>
    match Json.hexValue c with
    | some d => hexNumber (acc * 16 + d) cs
    | none => none

/-- Reads an escape behind its backslash: the character, and how many characters it takes. -/
def readEscape (cs : List Char) : Except Error (Char × Nat) :=
  match cs with
  | [] => .error .badEscape
  | x :: rest =>
    match escapeOf x with
    | some c => .ok (c, 1)
    | none =>
      let n := escapeDigits x
      let ds := rest.take n
      if n = 0 ∨ ds.length < n then .error .badEscape
      else
        match hexNumber 0 ds with
        | some v =>
          if (0xd800 ≤ v ∧ v ≤ 0xdfff) ∨ 0x10ffff < v then .error .badEscape
          else .ok (Char.ofNat v, n + 1)
        | none => .error .badEscape

/-- Reads a quoted scalar up to and over its closing quote. -/
def readQuoted (single : Bool) : Nat → Cursor → List Char → Except Error Scanned
  | 0, _, _ => .error .openQuote
  | fuel + 1, c, text =>
    if c.atDocumentMark then .error .documentMark
    else
      match c.rest with
      | [] => .error .openQuote
      | x :: cs =>
        if single ∧ x = '\'' then
          if cs.head? = some '\'' then readQuoted single fuel (c.skipMany 2) (text ++ ['\''])
          else .ok ⟨c.skip, text, false⟩
        else if !single ∧ x = '"' then .ok ⟨c.skip, text, false⟩
        else if !single ∧ x = '\\' then
          if !cs.isEmpty && endsLine cs then
            match readGap none cs.length c.skip.skipLine { broken := true } with
            | .error e => .error e
            | .ok (c, g) => readQuoted single fuel c (text ++ g.text)
          else
            match readEscape cs with
            | .error e => .error e
            | .ok (y, n) => readQuoted single fuel (c.skipMany (n + 1)) (text ++ [y])
        else if isBlank x || isBreak x then
          match readGap none c.rest.length c {} with
          | .error e => .error e
          | .ok (c, g) => readQuoted single fuel c (text ++ g.text)
        else readQuoted single fuel c.skip (text ++ [x])

/-- The header of a block scalar: what happens to the line breaks at its end (`some true` keeps them
all, `some false` drops them all), and an explicit indentation. -/
structure BlockHeader where
  keep : Option Bool
  indent : Nat

/-- A chomping mark. -/
def chompMark (x : Char) : Option Bool :=
  if x = '+' then some true else if x = '-' then some false else none

def digitMark (x : Char) : Option Nat :=
  if '0' ≤ x ∧ x ≤ '9' then some (x.toNat - 48) else none

/-- Reads the marks of a header in either order; an indentation of zero is refused. -/
def readHeader (c : Cursor) : Except Error (Cursor × BlockHeader) :=
  let checked := fun (c : Cursor) (keep : Option Bool) (d : Nat) =>
    if d = 0 then Except.error Error.blockHeader else .ok (c, (⟨keep, d⟩ : BlockHeader))
  match c.rest with
  | [] => .ok (c, ⟨none, 0⟩)
  | x :: cs =>
    match chompMark x with
    | some k =>
      match cs.head?.bind digitMark with
      | some d => checked (c.skipMany 2) (some k) d
      | none => .ok (c.skip, ⟨some k, 0⟩)
    | none =>
      match digitMark x with
      | some d =>
        match cs.head?.bind chompMark with
        | some k => checked (c.skipMany 2) (some k) d
        | none => checked c.skip none d
      | none => .ok (c, ⟨none, 0⟩)

/-- Line breaks and indentation before a line of a block scalar. An indentation of zero is one that
is still to be found; `deepest` is the deepest column seen. -/
def readBreaks (indent : Nat) : Nat → Nat → Cursor → List Char →
    Except Error (Cursor × List Char × Nat)
  | 0, deepest, c, breaks => .ok (c, breaks, deepest)
  | fuel + 1, deepest, c, breaks =>
    let room := if indent = 0 then c.rest.length else indent - c.column
    let n := ((c.rest.take room).takeWhile (· = ' ')).length
    let c := c.skipMany n
    let deepest := if deepest < c.column then c.column else deepest
    match c.rest with
    | [] => .ok (c, breaks, deepest)
    | x :: _ =>
      if (indent = 0 ∨ c.column < indent) ∧ x = '\t' then .error .tabIndent
      else if isBreak x then readBreaks indent fuel deepest c.skipLine (breaks ++ c.breakText)
      else .ok (c, breaks, deepest)

/-- A block scalar while its lines are read. -/
structure BlockText where
  text : List Char := []
  lastBreak : List Char := []
  breaks : List Char := []
  wasIndented : Bool := false

/-- Reads the lines of a block scalar at column `indent`. -/
def readLines (literal : Bool) (indent : Nat) : Nat → Cursor → BlockText →
    Except Error (Cursor × BlockText)
  | 0, c, b => .ok (c, b)
  | fuel + 1, c, b =>
    if c.column = indent ∧ c.rest ≠ [] then
      let indented := match c.rest with
        | x :: _ => isBlank x
        | [] => false
      let fold := !literal && !b.wasIndented && !indented && b.lastBreak.head? = some '\n'
      let joint := if fold then (if b.breaks.isEmpty then [' '] else []) else b.lastBreak
      let line := c.rest.takeWhile fun x => !isBreak x
      let text := b.text ++ joint ++ b.breaks ++ line
      let c := c.skipMany line.length
      let lastBreak := c.breakText
      match readBreaks indent c.rest.length 0 c.skipLine [] with
      | .error e => .error e
      | .ok (c, breaks, _) =>
        readLines literal indent fuel c ⟨text, lastBreak, breaks, indented⟩
    else .ok (c, b)

/-- The larger of two columns. -/
def deeper (a b : Nat) : Nat := if a < b then b else a

/-- Reads a block scalar behind its `|` or `>`, inside a block at column `outer`. -/
def readBlock (literal : Bool) (outer : Int) (c : Cursor) : Except Error Scanned :=
  match readHeader c with
  | .error e => .error e
  | .ok (c, h) =>
    let c := c.skipWhile isBlank
    let c := if c.peek = some '#' then c.skipWhile (fun x => !isBreak x) else c
    if !endsLine c.rest then .error .blockHeader
    else
      let c := c.skipLine
      let given := if h.indent = 0 then 0 else h.indent + outer.toNat
      match readBreaks given (c.rest.length + 1) 0 c [] with
      | .error e => .error e
      | .ok (c, breaks, deepest) =>
        let indent := if given = 0 then deeper (deeper deepest (outer + 1).toNat) 1 else given
        match readLines literal indent (c.rest.length + 1) c { breaks := breaks } with
        | .error e => .error e
        | .ok (c, b) =>
          let tail := match h.keep with
            | some true => b.lastBreak ++ b.breaks
            | some false => []
            | none => b.lastBreak
          .ok ⟨c, b.text ++ tail, false⟩

end Courier.Yaml
