import Courier.Yaml.Scalar

/-!
YAML tokens. Blocks are bracketed by tokens of their own, which the columns of the text decide; a `:`
can turn the token before it into a mapping key, so key tokens are put in behind tokens already read.
-/

namespace Courier.Yaml

inductive Token
  | version (major minor : Nat)
  | tagHandle (handle text : String)
  | documentStart | documentEnd
  | sequenceStart | mappingStart | blockEnd
  | flowSequenceStart | flowSequenceEnd | flowMappingStart | flowMappingEnd
  | blockEntry | flowEntry | key | value
  | alias (name : String)
  | anchor (name : String)
  | tag (handle suffix : String)
  | scalar (text : String) (plain : Bool)
  | streamEnd
  deriving DecidableEq

/-- A token that may turn out to be a mapping key: its number and where it starts. A required one
stands where the block has nothing but keys. -/
structure KeyPlace where
  required : Bool
  number : Nat
  line : Nat
  column : Nat
  index : Nat

/-- The state of reading tokens. `keys` holds the possible key of each flow level, the innermost
first; outside all brackets there is one level. -/
structure Lexer where
  cursor : Cursor
  indent : Int := -1
  indents : List Int := []
  keys : List (Option KeyPlace) := [none]
  keyAllowed : Bool := true
  tokens : List Token := []

namespace Lexer

def inFlow (l : Lexer) : Bool := 1 < l.keys.length

def emit (l : Lexer) (t : Token) : Lexer := { l with tokens := l.tokens ++ [t] }

/-- Puts a token before the one with a given number. -/
def putAt (l : Lexer) (n : Nat) (t : Token) : Lexer :=
  { l with tokens := l.tokens.take n ++ t :: l.tokens.drop n }

def setKey (l : Lexer) (k : Option KeyPlace) : Lexer := { l with keys := k :: l.keys.drop 1 }

def currentKey (l : Lexer) : Option KeyPlace := l.keys.head?.join

/-- Gives up the possible key of the level; a required one must not be given up. -/
def dropKey (l : Lexer) : Except Error Lexer :=
  match l.currentKey with
  | some k => if k.required then .error .missingColon else .ok (l.setKey none)
  | none => .ok l

/-- Notes that the token to come may be a key. -/
def noteKey (l : Lexer) : Except Error Lexer :=
  if l.keyAllowed then
    let c := l.cursor
    let required := !l.inFlow && l.indent = (c.column : Int)
    (l.dropKey).map fun l => l.setKey (some ⟨required, l.tokens.length, c.line, c.column, c.index⟩)
  else .ok l

/-- The possible key before a colon: it must be on the same line and not too far back. -/
def keyBeforeColon (l : Lexer) : Except Error (Option KeyPlace) :=
  match l.currentKey with
  | none => .ok none
  | some k =>
    if k.line < l.cursor.line ∨ k.index + 1024 < l.cursor.index then
      if k.required then .error .missingColon else .ok none
    else .ok (some k)

/-- Opens a block at a column deeper than the current one, before the token with a given number. -/
def openBlock (l : Lexer) (column : Nat) (number : Nat) (t : Token) : Lexer :=
  if l.inFlow ∨ (column : Int) ≤ l.indent then l
  else { l.putAt number t with indent := column, indents := l.indent :: l.indents }

/-- Closes the blocks deeper than a column, at most `fuel` of them. -/
def closeBlocks : Nat → Int → Lexer → Lexer
  | 0, _, l => l
  | fuel + 1, column, l =>
    if l.inFlow ∨ l.indent ≤ column then l
    else closeBlocks fuel column
      { l.emit .blockEnd with indent := l.indents.head?.getD (-1), indents := l.indents.drop 1 }

def close (l : Lexer) (column : Int) : Lexer := closeBlocks l.indents.length column l

def moveTo (l : Lexer) (c : Cursor) : Lexer := { l with cursor := c }

/-- Moves over blanks, comments and line breaks. Tabs are blanks only where no key may start. -/
def skipGap : Nat → Lexer → Lexer
  | 0, l => l
  | fuel + 1, l =>
    let c := l.cursor
    let c := if c.column = 0 ∧ c.peek = some (Char.ofNat 0xfeff) then c.skip else c
    let tabs := l.inFlow || !l.keyAllowed
    let c := c.skipWhile fun x => x = ' ' || (tabs && x = '\t')
    let c := if c.peek = some '#' then c.skipWhile (fun x => !isBreak x) else c
    match c.rest with
    | x :: _ =>
      if isBreak x then
        skipGap fuel { l with cursor := c.skipLine, keyAllowed := l.keyAllowed || !l.inFlow }
      else l.moveTo c
    | [] => l.moveTo c

/-- A token of one character. -/
def single (l : Lexer) (t : Token) : Lexer := { l.emit t with cursor := l.cursor.skip }

def openFlow (l : Lexer) (t : Token) : Except Error Lexer := do
  let l ← l.noteKey
  .ok { l.single t with keys := none :: l.keys, keyAllowed := true }

def closeFlow (l : Lexer) (t : Token) : Except Error Lexer := do
  let l ← l.dropKey
  let keys := if l.inFlow then l.keys.drop 1 else l.keys
  .ok { l.single t with keys := keys, keyAllowed := false }

def flowEntry (l : Lexer) : Except Error Lexer := do
  let l ← l.dropKey
  .ok { l.single .flowEntry with keyAllowed := true }

def blockEntry (l : Lexer) : Except Error Lexer := do
  if !l.inFlow && !l.keyAllowed then .error (.notAllowed "block sequence entries")
  else
    let l := l.openBlock l.cursor.column l.tokens.length .sequenceStart
    let l ← l.dropKey
    .ok { l.single .blockEntry with keyAllowed := true }

def explicitKey (l : Lexer) : Except Error Lexer := do
  if !l.inFlow && !l.keyAllowed then .error (.notAllowed "mapping keys")
  else
    let l := l.openBlock l.cursor.column l.tokens.length .mappingStart
    let l ← l.dropKey
    .ok { l.single .key with keyAllowed := !l.inFlow }

/-- A colon makes the possible key before it a key, or else starts the value of an explicit key. -/
def colon (l : Lexer) : Except Error Lexer := do
  match ← l.keyBeforeColon with
  | some k =>
    let l := (l.putAt k.number .key).openBlock k.column k.number .mappingStart
    .ok { (l.setKey none).single .value with keyAllowed := false }
  | none =>
    if !l.inFlow && !l.keyAllowed then .error (.notAllowed "mapping values")
    else
      let l := (l.setKey none).openBlock l.cursor.column l.tokens.length .mappingStart
      .ok { l.single .value with keyAllowed := !l.inFlow }

/-- Characters that may stand behind an anchor or alias. -/
def endsAnchor : List Char → Bool
  | [] => true
  | c :: _ =>
    isBlank c || isBreak c || c = '?' || c = ':' || c = ',' || c = ']' || c = '}' || c = '%' ||
      c = '@' || c = '\u0060'

def anchor (l : Lexer) (make : String → Token) : Except Error Lexer := do
  let l ← l.noteKey
  let c := l.cursor.skip
  let name := c.rest.takeWhile isWordChar
  let c := c.skipMany name.length
  if name.isEmpty || !endsAnchor c.rest then .error .anchor
  else .ok { l.emit (make (String.ofList name)) with cursor := c, keyAllowed := false }

/-- Characters of a tag. -/
def isTagChar (c : Char) : Bool :=
  isWordChar c || ";/?:@&=+$,.!~*'()[]%".toList.contains c

/-- Replaces the percent escapes of a tag. -/
def unescapeTag : Nat → List Char → Except Error (List Char)
  | 0, cs => .ok cs
  | _, [] => .ok []
  | fuel + 1, '%' :: cs =>
    match cs with
    | a :: b :: rest =>
      match hexNumber 0 [a, b] with
      | some n => (unescapeTag fuel rest).map (Char.ofNat n :: ·)
      | none => .error .tag
    | _ => .error .tag
  | fuel + 1, c :: cs => (unescapeTag fuel cs).map (c :: ·)

/-- Reads the rest of a tag behind some characters already read. -/
def readTagText (front : List Char) (c : Cursor) : Except Error (String × Cursor) :=
  let cs := c.rest.takeWhile isTagChar
  if front.isEmpty ∧ cs.isEmpty then .error .tag
  else
    match unescapeTag cs.length cs with
    | .error e => .error e
    | .ok text => .ok (String.ofList (front.drop 1 ++ text), c.skipMany cs.length)

/-- The handle at the front of a tag: an exclamation mark, and a word with a second one if there is
one. -/
def readHandle (c : Cursor) : List Char × Cursor :=
  let word := (c.rest.drop 1).takeWhile isWordChar
  let closed := (c.rest.drop (1 + word.length)).head? = some '!'
  let handle := '!' :: word ++ (if closed then ['!'] else [])
  (handle, c.skipMany handle.length)

/-- Reads a tag in one of its three forms. -/
def readTag (c : Cursor) : Except Error (String × String × Cursor) :=
  match c.rest with
  | '!' :: '<' :: _ => do
    let (text, c) ← readTagText [] (c.skipMany 2)
    if c.peek = some '>' then .ok ("", text, c.skip) else .error .tag
  | _ =>
    let (handle, c) := readHandle c
    if 1 < handle.length ∧ handle.getLast? = some '!' then do
      let (text, c) ← readTagText [] c
      .ok (String.ofList handle, text, c)
    else do
      let (text, c) ← readTagText handle c
      if text = "" then .ok ("", "!", c) else .ok ("!", text, c)

def tag (l : Lexer) : Except Error Lexer := do
  let l ← l.noteKey
  let (handle, text, c) ← readTag l.cursor
  if !endsWord c.rest then .error .tag
  else .ok { l.emit (.tag handle text) with cursor := c, keyAllowed := false }

def blockScalar (l : Lexer) (literal : Bool) : Except Error Lexer := do
  let l ← l.dropKey
  let s ← readBlock literal l.indent l.cursor.skip
  .ok { l.emit (.scalar (String.ofList s.text) false) with cursor := s.cursor, keyAllowed := true }

def quotedScalar (l : Lexer) (quote : Bool) : Except Error Lexer := do
  let l ← l.noteKey
  let s ← readQuoted quote (l.cursor.rest.length + 1) l.cursor.skip []
  .ok { l.emit (.scalar (String.ofList s.text) false) with cursor := s.cursor, keyAllowed := false }

def plainScalar (l : Lexer) : Except Error Lexer := do
  let l ← l.noteKey
  let s ← readPlain l.inFlow (l.indent + 1).toNat (l.cursor.rest.length + 1) l.cursor [] {}
  .ok { l.emit (.scalar (String.ofList s.text) true) with cursor := s.cursor, keyAllowed := s.broken }

/-- A number of a version directive. -/
def readVersionNumber (c : Cursor) : Except Error (Nat × Cursor) :=
  let ds := c.rest.takeWhile Json.isDigit
  if ds.isEmpty ∨ 9 < ds.length then .error .directive
  else .ok (ds.foldl (fun n d => n * 10 + (d.toNat - 48)) 0, c.skipMany ds.length)

/-- Reads the arguments of a directive. -/
def readDirective (name : String) (c : Cursor) : Except Error (Token × Cursor) :=
  let c := c.skipWhile isBlank
  if name = "YAML" then do
    let (major, c) ← readVersionNumber c
    if c.peek = some '.' then
      let (minor, c) ← readVersionNumber c.skip
      .ok (.version major minor, c)
    else .error .directive
  else if name = "TAG" then
    if c.peek = some '!' then
      let (handle, c) := readHandle c
      if (1 < handle.length ∧ handle.getLast? ≠ some '!') ∨ !c.rest.head?.any isBlank then
        .error .directive
      else do
        let (text, c) ← readTagText [] (c.skipWhile isBlank)
        if endsWord c.rest then .ok (.tagHandle (String.ofList handle) text, c)
        else .error .directive
    else .error .directive
  else .error .directive

/-- Ends all blocks before a directive or document mark. -/
def resetBlocks (l : Lexer) : Except Error Lexer := do
  let l ← (l.close (-1)).dropKey
  .ok { l with keyAllowed := false }

def directive (l : Lexer) : Except Error Lexer := do
  let l ← l.resetBlocks
  let c := l.cursor.skip
  let name := c.rest.takeWhile isWordChar
  let c := c.skipMany name.length
  if name.isEmpty || !endsWord c.rest then .error .directive
  else
    let (t, c) ← readDirective (String.ofList name) c
    let c := c.skipWhile isBlank
    let c := if c.peek = some '#' then c.skipWhile (fun x => !isBreak x) else c
    if endsLine c.rest then .ok { l.emit t with cursor := c.skipLine } else .error .directive

def documentMark (l : Lexer) (t : Token) : Except Error Lexer := do
  let l ← l.resetBlocks
  .ok { l.emit t with cursor := l.cursor.skipMany 3 }

/-- Characters a plain scalar cannot start with, unless a word character follows a `-`, `?` or `:`. -/
def isIndicator (c : Char) : Bool := "-?:,[]#&*!|>%@\"\'\x7b\x7d\u0060".toList.contains c

/-- Whether a plain scalar starts here. -/
def startsPlain (l : Lexer) (x : Char) (cs : List Char) : Bool :=
  (!isBlank x && !isBreak x && !isIndicator x) ||
    (x = '-' && !cs.head?.any isBlank) ||
    (!l.inFlow && (x = '?' || x = ':') && !endsWord cs)

/-- Reads one token that starts with a given character. -/
def readToken (l : Lexer) (x : Char) (cs : List Char) : Except Error Lexer :=
  if x = '[' then l.openFlow .flowSequenceStart
  else if x = '{' then l.openFlow .flowMappingStart
  else if x = ']' then l.closeFlow .flowSequenceEnd
  else if x = '}' then l.closeFlow .flowMappingEnd
  else if x = ',' then l.flowEntry
  else if x = '-' && endsWord cs then l.blockEntry
  else if x = '?' && (l.inFlow || endsWord cs) then l.explicitKey
  else if x = ':' && (l.inFlow || endsWord cs) then l.colon
  else if x = '*' then l.anchor .alias
  else if x = '&' then l.anchor .anchor
  else if x = '!' then l.tag
  else if x = '|' && !l.inFlow then l.blockScalar true
  else if x = '>' && !l.inFlow then l.blockScalar false
  else if x = '\'' then l.quotedScalar true
  else if x = '"' then l.quotedScalar false
  else if l.startsPlain x cs then l.plainScalar
  else .error .badCharacter

/-- Reads the next token, if there is more text. -/
def next (l : Lexer) : Except Error (Lexer × Bool) :=
  let l := skipGap (l.cursor.rest.length + 1) l
  let l := l.close l.cursor.column
  match l.cursor.rest with
  | [] => do
    let l ← (l.close (-1)).dropKey
    .ok (l.emit .streamEnd, true)
  | x :: cs =>
    let goOn := fun (r : Except Error Lexer) => r.map fun l => (l, false)
    if l.cursor.column = 0 ∧ x = '%' then goOn l.directive
    else if l.cursor.atDocumentMark then
      goOn (l.documentMark (if x = '-' then .documentStart else .documentEnd))
    else goOn (l.readToken x cs)

/-- Reads tokens until the text ends or something is wrong with it. -/
def run : Nat → Lexer → Lexer × Option Error
  | 0, l => (l, none)
  | fuel + 1, l =>
    match l.next with
    | .error e => (l, some e)
    | .ok (l, true) => (l, none)
    | .ok (l, false) => run fuel l

end Lexer

/-- The tokens of a text, and what stopped their reading. A byte order mark in front does not count. -/
def Token.ofText (cs : List Char) : List Token × Option Error :=
  let cs := if cs.head? = some (Char.ofNat 0xfeff) then cs.drop 1 else cs
  if cs.all isAllowed then
    let r := Lexer.run (cs.length + 2) { cursor := ⟨cs, 0, 0, 0⟩ }
    (r.1.tokens, r.2)
  else ([], some .control)

end Courier.Yaml
