import Courier.Number.Decimal
import Courier.Text.Fold
import Courier.Value.Show

/-!
The shape of a program document: which keys it may have, and what their values are read as. Scalars
serve as texts, a single value serves as a list of one, and everything that does not fit is reported.
-/

namespace Courier

/-- A statement as it is written. -/
inductive StatementDoc
  | mk (assign : String) (value reply cond : Value) (onTrue onFalse : List StatementDoc)

/-- A program as it is written. -/
structure ProgramDoc where
  name : String := ""
  version : String := ""
  input : Keyed String := []
  statements : List StatementDoc := []

/-- One place where a document does not have the shape of a program. -/
inductive ShapeError
  | notText (path : String) (value : Value)
  | notMap (path kind : String)
  | unknownKeys (path : String) (keys : List String)
  | foreignKey (path : String)

def ShapeError.message : ShapeError → String
  | .notText path v =>
    "'" ++ path ++ "' expected type 'string', got unconvertible type '" ++ v.typeName ++
      "', value: '" ++ v.display ++ "'"
  | .notMap path kind => "'" ++ path ++ "' expected a map, got '" ++ kind ++ "'"
  | .unknownKeys path keys =>
    "'" ++ path ++ "' has invalid keys: " ++ String.intercalate ", " keys
  | .foreignKey path => "'" ++ path ++ "' has a key that is no text"

/-- Several shape errors as one text. -/
def ShapeError.summary (es : List ShapeError) : String :=
  toString es.length ++ " error(s) decoding:\n\n" ++
    String.intercalate "\n" (Text.sort (es.map fun e => "* " ++ e.message))

namespace Document

/-- What was read, and what was wrong with it. -/
structure Shaped (α : Type) where
  result : α
  errors : List ShapeError := []

/-- Numbers that serve as texts are written out in full. -/
def plainLayout : Decimal.Layout := ⟨fun _ => true, 2⟩

/-- The text a scalar serves as. -/
def textOf? : Value → Option String
  | .text s => some s
  | .bool b => some (if b then "1" else "0")
  | .int _ n => some (toString n)
  | .float x => some (x.text .double plainLayout)
  | .null => some ""
  | _ => none

def readText (path : String) (v : Value) : Shaped String :=
  match textOf? v with
  | some t => ⟨t, []⟩
  | none => ⟨"", [.notText path v]⟩

/-- The word for the kind of a value. -/
def kindOf : Value → String
  | .text _ => "string"
  | .bool _ => "bool"
  | .int k _ => k.name
  | .float _ => "float64"
  | .single _ => "float32"
  | .null => "invalid"
  | .record _ => "map"
  | .table _ => "map"
  | .time _ => "struct"
  | _ => "slice"

/-- The key a field is given by: its name, or else the first key that differs from it only by case. -/
def keyFor (keys : List String) (field : String) : Option String :=
  if keys.contains field then some field else keys.find? fun k => Text.foldEq field k

/-- Of some fields, the one a key gives. -/
def fieldOf (fields keys : List String) (key : String) : Option String :=
  fields.find? fun f => keyFor keys f = some key

def below (path field : String) : String := if path = "" then field else path ++ "." ++ field

def atIndex (path : String) (i : Nat) : String := path ++ "[" ++ toString i ++ "]"

/-- The keys that give no field. -/
def unknownKeys (path : String) (fields keys : List String) : List ShapeError :=
  match keys.filter fun k => (fieldOf fields keys k).isNone with
  | [] => []
  | ks => [.unknownKeys path (Text.sort ks)]

/-- The text keys among the keys of a table. -/
def textKeys (es : List (Value × Value)) : List String :=
  es.filterMap fun e =>
    match e.1 with
    | .text s => some s
    | _ => none

def statementFields : List String := ["assign", "value", "reply", "if", "then", "else"]

def blank : StatementDoc := .mk "" .null .null .null [] []

/-- A statement with one field set from a value and from the statements it holds. -/
def setField (path field : String) (v : Value) (inner : Shaped (List StatementDoc))
    (s : Shaped StatementDoc) : Shaped StatementDoc :=
  match s.result with
  | .mk a value reply cond t e =>
    if field = "assign" then
      let r := readText (below path field) v
      ⟨.mk r.result value reply cond t e, s.errors ++ r.errors⟩
    else if field = "value" then ⟨.mk a v reply cond t e, s.errors⟩
    else if field = "reply" then ⟨.mk a value v cond t e, s.errors⟩
    else if field = "if" then ⟨.mk a value reply v t e, s.errors⟩
    else if field = "then" then ⟨.mk a value reply cond inner.result e, s.errors ++ inner.errors⟩
    else ⟨.mk a value reply cond t inner.result, s.errors ++ inner.errors⟩

mutual
/-- A list of statements, or one statement by itself; an empty map is an empty list. -/
def readStatements (path : String) : Value → Shaped (List StatementDoc)
  | .null => ⟨[], []⟩
  | .list vs => readItems path 0 vs
  | .record fs =>
    if fs.isEmpty then ⟨[], []⟩
    else
      let r := readFields (atIndex path 0) (fs.map Prod.fst) fs
      ⟨[r.result], r.errors ++ unknownKeys (atIndex path 0) statementFields (fs.map Prod.fst)⟩
  | .table es =>
    if es.isEmpty then ⟨[], []⟩
    else
      let r := readEntries (atIndex path 0) (textKeys es) es
      ⟨[r.result], r.errors ++ unknownKeys (atIndex path 0) statementFields (textKeys es)⟩
  | .time _ => ⟨[blank], []⟩
  | v => ⟨[blank], [.notMap (atIndex path 0) (kindOf v)]⟩
def readItems (path : String) (i : Nat) : List Value → Shaped (List StatementDoc)
  | [] => ⟨[], []⟩
  | v :: vs =>
    let r := readStatement (atIndex path i) v
    let rs := readItems path (i + 1) vs
    ⟨r.result :: rs.result, r.errors ++ rs.errors⟩
def readStatement (path : String) : Value → Shaped StatementDoc
  | .null => ⟨blank, []⟩
  | .record fs =>
    let r := readFields path (fs.map Prod.fst) fs
    ⟨r.result, r.errors ++ unknownKeys path statementFields (fs.map Prod.fst)⟩
  | .table es =>
    let r := readEntries path (textKeys es) es
    ⟨r.result, r.errors ++ unknownKeys path statementFields (textKeys es)⟩
  | .time _ => ⟨blank, []⟩
  | v => ⟨blank, [.notMap path (kindOf v)]⟩
def readFields (path : String) (keys : List String) : List (String × Value) → Shaped StatementDoc
  | [] => ⟨blank, []⟩
  | (k, v) :: fs =>
    let rest := readFields path keys fs
    match fieldOf statementFields keys k with
    | some f => setField path f v (readStatements (below path f) v) rest
    | none => rest
/-- The fields of a table; a key that is no text fits no field. -/
def readEntries (path : String) (keys : List String) : List (Value × Value) → Shaped StatementDoc
  | [] => ⟨blank, []⟩
  | (.text k, v) :: es =>
    let rest := readEntries path keys es
    match fieldOf statementFields keys k with
    | some f => setField path f v (readStatements (below path f) v) rest
    | none => rest
  | _ :: es =>
    let rest := readEntries path keys es
    ⟨rest.result, .foreignKey path :: rest.errors⟩
end

/-- Texts by text from entries whose keys and values serve as texts. -/
def readTexts (path : Value → String) (start : Keyed String) :
    List (Value × Value) → Shaped (Keyed String)
  | [] => ⟨start, []⟩
  | (k, v) :: es =>
    let key := readText (path k) k
    let value := readText (path k) v
    match key.errors, value.errors with
    | [], [] => readTexts path (Keyed.insert key.result value.result start) es
    | [], errs =>
      let rest := readTexts path start es
      ⟨rest.result, errs ++ rest.errors⟩
    | errs, _ =>
      let rest := readTexts path start es
      ⟨rest.result, errs ++ rest.errors⟩

mutual
/-- The declarations of the input fields, added to those read before. A list of maps counts as one map,
up to the first element that is none. -/
def readInput (path : String) (start : Keyed String) : Value → Shaped (Keyed String)
  | .null => ⟨start, []⟩
  | .record fs =>
    readTexts (fun k => path ++ "[" ++ k.display ++ "]") start
      (fs.map fun f => (Value.text f.1, f.2))
  | .table es => readTexts (fun _ => path ++ "[<interface \x7b\x7d Value>]") start es
  | .list vs => readInputs path 0 start vs
  | .time _ => ⟨start, []⟩
  | v => ⟨start, [.notMap path (kindOf v)]⟩
def readInputs (path : String) (i : Nat) (start : Keyed String) :
    List Value → Shaped (Keyed String)
  | [] => ⟨start, []⟩
  | v :: vs =>
    let r := readInput (atIndex path i) start v
    if r.errors.isEmpty then readInputs path (i + 1) r.result vs else r
end

def programFields : List String := ["name", "version", "input", "statements"]

/-- One field of a program. -/
def setProgramField (field : String) (v : Value) (p : Shaped ProgramDoc) : Shaped ProgramDoc :=
  if field = "name" then
    let r := readText field v
    ⟨{ p.result with name := r.result }, p.errors ++ r.errors⟩
  else if field = "version" then
    let r := readText field v
    ⟨{ p.result with version := r.result }, p.errors ++ r.errors⟩
  else if field = "input" then
    let r := readInput field [] v
    ⟨{ p.result with input := r.result }, p.errors ++ r.errors⟩
  else
    let r := readStatements field v
    ⟨{ p.result with statements := r.result }, p.errors ++ r.errors⟩

/-- Reads the fields of a document. -/
def readProgram (root : Keyed Value) : Shaped ProgramDoc :=
  let keys := Keyed.keys root
  let r := root.foldl (fun p e =>
    match fieldOf programFields keys e.1 with
    | some f => setProgramField f e.2 p
    | none => p) ⟨{}, []⟩
  ⟨r.result, r.errors ++ unknownKeys "" programFields keys⟩

end Document
end Courier
