import Courier.Number.Literal
import Courier.Text.Blank
import Courier.Text.Quoted
import Courier.Text.Truth
import Courier.Text.Utf8

/-!
The words of a command line: flags with their values, and the words between them. A long flag is
`--name value` or `--name=value`; letters behind one dash are short flags; a switch needs no value;
everything behind `--` is a plain word.
-/

namespace Courier.Command

inductive FlagKind
  | text
  | switch
  | integer
  deriving DecidableEq

structure Flag where
  name : String
  kind : FlagKind := .text
  short : Option Char := none
  deriving DecidableEq

inductive FlagValue
  | text (s : String)
  | switch (b : Bool)
  | integer (n : Int)
  deriving DecidableEq

/-- Why a value does not fit its flag. -/
inductive ValueError
  | truth
  | integer (error : Literal.LiteralError)
  deriving DecidableEq

inductive FlagError
  | badSyntax (word : String)
  | unknown (name : String)
  | unknownLetter (letters : String)
  | needsValue (word : String)
  | needsLetterValue (letters : String)
  | badValue (flag : Flag) (value : String) (error : ValueError)
  deriving DecidableEq

namespace Flag

/-- The flag as its owner would write it. -/
def title (f : Flag) : String :=
  match f.short with
  | some c => "-" ++ String.ofList [c] ++ ", --" ++ f.name
  | none => "--" ++ f.name

/-- The value of a flag from its text. -/
def read (f : Flag) (s : String) : Except FlagError (String × FlagValue) :=
  match f.kind with
  | .text => .ok (f.name, .text s)
  | .switch =>
    match Text.truth? s with
    | some b => .ok (f.name, .switch b)
    | none => .error (.badValue f s .truth)
  | .integer =>
    match Literal.int64? s with
    | .ok n => .ok (f.name, .integer n)
    | .error e => .error (.badValue f s (.integer e))

end Flag

/-- The first byte of a text as a character in single quotes. -/
def quotedLetter (s : String) : String :=
  let c := Char.ofNat (((Text.utf8Bytes s).headD 0).toNat)
  let shown := if c = '"' then [c] else if c.toNat = 39 then ['\\', c] else Text.quoteChar c
  "'" ++ String.ofList shown ++ "'"

def ValueError.message (value : String) : ValueError → String
  | .truth => "strconv.ParseBool: parsing " ++ Text.quote value ++ ": invalid syntax"
  | .integer .syntaxError => "strconv.ParseInt: parsing " ++ Text.quote value ++ ": invalid syntax"
  | .integer .outOfRange =>
    "strconv.ParseInt: parsing " ++ Text.quote value ++ ": value out of range"

def FlagError.message : FlagError → String
  | .badSyntax word => "bad flag syntax: " ++ word
  | .unknown name => "unknown flag: --" ++ name
  | .unknownLetter letters =>
    "unknown shorthand flag: " ++ quotedLetter letters ++ " in -" ++ letters
  | .needsValue word => "flag needs an argument: " ++ word
  | .needsLetterValue letters =>
    "flag needs an argument: " ++ quotedLetter letters ++ " in -" ++ letters
  | .badValue flag value error =>
    "invalid argument " ++ Text.quote value ++ " for " ++ Text.quote flag.title ++ " flag: " ++
      error.message value

/-- What a command line gives: the flags in their order, and the plain words. -/
structure Given where
  flags : List (String × FlagValue) := []
  words : List String := []

namespace Given

def add (g : Given) (flags : List (String × FlagValue)) : Given :=
  { g with flags := g.flags ++ flags }

/-- The last value given for a flag. -/
def value? (g : Given) (name : String) : Option FlagValue :=
  (g.flags.reverse.find? fun f => f.1 = name).map Prod.snd

def text? (g : Given) (name : String) : Option String :=
  match g.value? name with
  | some (.text s) => some s
  | _ => none

/-- The text of a flag, empty when it is not given. -/
def text (g : Given) (name : String) : String := (g.text? name).getD ""

def switch (g : Given) (name : String) (default : Bool) : Bool :=
  match g.value? name with
  | some (.switch b) => b
  | _ => default

def integer (g : Given) (name : String) (default : Int) : Int :=
  match g.value? name with
  | some (.integer n) => n
  | _ => default

end Given

/-- A part of the command line that was read: flags with their values, and the flag that takes the
next word as its value. -/
abbrev Piece := List (String × FlagValue) × Option Flag

/-- The flag behind two dashes. -/
def readLong (flags : List Flag) (word : String) (cs : List Char) : Except FlagError Piece :=
  let (name, value) := Text.cutChars '=' cs
  if name.isEmpty || name.head? = some '-' then .error (.badSyntax word)
  else
    let name := String.ofList name
    match flags.find? fun f => f.name = name with
    | none => .error (.unknown name)
    | some f =>
      match value with
      | some v => (f.read (String.ofList v)).map fun p => ([p], none)
      | none =>
        if f.kind = .switch then .ok ([(name, .switch true)], none) else .ok ([], some f)

/-- The flags behind one dash. Words that begin with `-test.` are meant for a test runner and are
passed over. -/
def readLetters (flags : List Flag) : List Char → Except FlagError Piece
  | [] => .ok ([], none)
  | c :: cs =>
    if (Text.afterStart? "test.".toList (c :: cs)).isSome then .ok ([], none)
    else
      match flags.find? fun f => f.short = some c with
      | none => .error (.unknownLetter (String.ofList (c :: cs)))
      | some f =>
        match cs with
        | '=' :: v :: vs => (f.read (String.ofList (v :: vs))).map fun p => ([p], none)
        | _ =>
          if f.kind = .switch then
            (readLetters flags cs).map fun (ps, f') => ((f.name, .switch true) :: ps, f')
          else if cs.isEmpty then .ok ([], some f)
          else (f.read (String.ofList cs)).map fun p => ([p], none)

/-- Reads a command line from some words on. -/
def readFrom (flags : List Flag) : List String → Given → Except FlagError Given
  | [], g => .ok g
  | w :: ws, g =>
    let piece : Except FlagError (Option Piece) := match w.toList with
      | ['-', '-'] => .ok none
      | '-' :: '-' :: cs => (readLong flags w cs).map some
      | '-' :: c :: cs => (readLetters flags (c :: cs)).map some
      | _ => .ok none
    match piece with
    | .error e => .error e
    | .ok none =>
      if w = "--" then .ok { g with words := g.words ++ ws }
      else readFrom flags ws { g with words := g.words ++ [w] }
    | .ok (some (ps, none)) => readFrom flags ws (g.add ps)
    | .ok (some (ps, some f)) =>
      match ws with
      | [] =>
        .error (if Text.startsWith "--" w then .needsValue w
          else .needsLetterValue (String.ofList (w.toList.drop 1)))
      | v :: ws' =>
        match f.read v with
        | .ok p => readFrom flags ws' (g.add (ps ++ [p]))
        | .error e => .error e

/-- Reads a command line. -/
def Given.read (flags : List Flag) (words : List String) : Except FlagError Given :=
  readFrom flags words {}

/-- Whether the next word belongs to a word, as far as these flags are known: a flag that is not
known is taken to need a value. -/
def takesNext (flags : List Flag) (w : String) : Bool :=
  match w.toList with
  | '-' :: '-' :: cs =>
    !cs.contains '=' && !(flags.any fun f => f.name = String.ofList cs && f.kind = .switch)
  | ['-', c] =>
    c ≠ '=' && c.toNat < 0x80 && !(flags.any fun f => f.short = some c && f.kind = .switch)
  | _ => false

/-- The words that are neither flags nor values of flags. A flag whose value is the last word hides
it. -/
def plainWords (flags : List Flag) : List String → List String
  | [] => []
  | w :: ws =>
    if w = "--" then []
    else if takesNext flags w then
      match ws with
      | _ :: v :: rest => plainWords flags (v :: rest)
      | _ => []
    else if w ≠ "" && !Text.startsWith "-" w then w :: plainWords flags ws
    else plainWords flags ws

/-- A command line without the first plain word of a name. -/
def withoutWord (flags : List Flag) (name : String) : List String → List String
  | [] => []
  | w :: ws =>
    if w = "--" then w :: ws
    else if takesNext flags w then
      match ws with
      | [] => [w]
      | v :: rest => w :: v :: withoutWord flags name rest
    else if w = name then ws
    else w :: withoutWord flags name ws

end Courier.Command
