import Courier.Files
import Courier.Program.Block
import Courier.Program.Document
import Courier.Schema.Decl
import Courier.Yaml.Load

/-!
Programs written as YAML documents. A document is read in stages: its YAML, its shape, its name, its
input types, its statements one by one, and the check of the program they make. The first stage that
fails is reported, with the file and the number of the statement at fault.
-/

namespace Courier

/-- Why a value is no expression. -/
inductive ExprError
  | keyCount (n : Nat)
  | varName
  | fieldPath
  | eqOperands
  | operator (name : String)
  deriving DecidableEq

def ExprError.message : ExprError → String
  | .keyCount n =>
    "invalid expression: expression map must have exactly one key, got " ++ toString n
  | .varName => "invalid expression: var needs a name"
  | .fieldPath => "invalid expression: field needs a path"
  | .eqOperands => "invalid expression: eq needs a list of two operands"
  | .operator name => "invalid expression: unknown operator " ++ Text.quote name

/-- Why a statement is none. -/
inductive StatementError
  | oneKind
  | assign (target : String) (error : ExprError)
  | reply (error : ExprError)
  | cond (error : ExprError)
  | branch (label : String) (index : Nat) (error : StatementError)
  deriving DecidableEq

namespace StatementError

def message : StatementError → String
  | .oneKind => "statement must have exactly one of assign, reply, if"
  | .assign t e => "assign " ++ t ++ ": " ++ e.message
  | .reply e => "reply: " ++ e.message
  | .cond e => "if: " ++ e.message
  | .branch label i e => label ++ "[" ++ toString i ++ "]: " ++ e.message

def marks : StatementError → List Mark
  | .oneKind => []
  | .branch _ _ e => e.marks
  | _ => [.invalidExpr]

end StatementError

namespace Source

/-- An operator applied to what its argument reads as. -/
def applied (op : String) (arg : Value) (inner : Except ExprError Expr)
    (operands : List (Except ExprError Expr)) : Except ExprError Expr :=
  if op = "lit" then .ok (.lit arg)
  else if op = "var" then
    match arg with
    | .text s => if s = "" then .error .varName else .ok (.var s)
    | _ => .error .varName
  else if op = "field" then
    match arg with
    | .text s => if s = "" then .error .fieldPath else .ok (.field s)
    | _ => .error .fieldPath
  else if op = "eq" then
    match operands with
    | [a, b] => do
      let a ← a
      let b ← b
      .ok (.eq a b)
    | _ => .error .eqOperands
  else if op = "not" then inner.map Expr.not
  else .error (.operator op)

/-- The different names of the keys of a table. -/
def keyNames (es : List (Value × Value)) : List String := (es.map fun e => e.1.display).eraseDups

mutual
/-- A map with one key is an operator and its argument; everything else is a literal. -/
def exprOf : Value → Except ExprError Expr
  | .record [(op, arg)] => applied op arg (exprOf arg) (operandsOf arg)
  | .record fs => .error (.keyCount fs.length)
  | .table [(k, arg)] => applied k.display arg (exprOf arg) (operandsOf arg)
  | .table es =>
    match keyNames es with
    | [name] => .error (.operator name)
    | names => .error (.keyCount names.length)
  | v => .ok (.lit v)
/-- The expressions in a list. -/
def operandsOf : Value → List (Except ExprError Expr)
  | .list vs => exprsOf vs
  | _ => []
def exprsOf : List Value → List (Except ExprError Expr)
  | [] => []
  | v :: vs => exprOf v :: exprsOf vs
end

mutual
/-- The statement of a document, which must be of exactly one kind. -/
def stmtOf : StatementDoc → Except StatementError Stmt
  | .mk target value reply cond onTrue onFalse =>
    match target != "", !reply.isNull, !cond.isNull with
    | true, false, false => ((exprOf value).mapError (.assign target)).map (.assign target)
    | false, true, false => ((exprOf reply).mapError .reply).map .reply
    | false, false, true => do
      let c ← (exprOf cond).mapError .cond
      let t ← branchOf "then" 0 onTrue
      let e ← branchOf "else" 0 onFalse
      .ok (.cond c t e)
    | _, _, _ => .error .oneKind
/-- The statements of a branch, the first of which has number `i`. -/
def branchOf (label : String) (i : Nat) : List StatementDoc → Except StatementError (List Stmt)
  | [] => .ok []
  | s :: ss => do
    let s ← (stmtOf s).mapError (.branch label i)
    let ss ← branchOf label (i + 1) ss
    .ok (s :: ss)
end

/-- The statements of a program; a failure comes with the number of the statement. -/
def bodyOf (i : Nat) : List StatementDoc → Except (Nat × StatementError) Block
  | [] => .ok []
  | s :: ss => do
    let s ← (stmtOf s).mapError fun e => (i, e)
    let ss ← bodyOf (i + 1) ss
    .ok (s :: ss)

/-- Why a text is no program. -/
inductive Cause
  | yaml (error : Yaml.Error)
  | empty
  | shape (errors : List ShapeError)
  | unnamed
  | input (error : Schema.DeclError)
  | statement (error : StatementError)
  | build (error : BuildError)
  | repeated (program earlier : String)

def Cause.message : Cause → String
  | .yaml e => "invalid yaml: " ++ e.message
  | .empty => "empty document"
  | .shape es => "failed to decode program: " ++ ShapeError.summary es
  | .unnamed => "program name is required"
  | .input e => "input: " ++ e.message
  | .statement e => e.message
  | .build e => e.message
  | .repeated p f => "program " ++ Text.quote p ++ " already defined in " ++ f

def Cause.marks : Cause → List Mark
  | .statement e => e.marks
  | .build e => e.error.marks
  | _ => []

/-- A cause with the file and the number of the statement it is about, `-1` for none. -/
structure ParseError where
  file : String
  index : Int
  cause : Cause

namespace ParseError

def message (e : ParseError) : String :=
  let file := if e.file = "" then "<input>" else e.file
  if e.index < 0 then file ++ ": " ++ e.cause.message
  else file ++ ": statement " ++ toString e.index ++ ": " ++ e.cause.message

def fault (e : ParseError) : Fault := ⟨e.message, e.cause.marks⟩

end ParseError

/-- The draft of a program document. A document without a name takes the one of its file. -/
def draftOf (file : String) (d : ProgramDoc) : Except (Int × Cause) Draft := do
  let name := if d.name = "" ∧ file ≠ "" then Path.stem file else d.name
  if name = "" then .error (-1, .unnamed)
  else
    let input ← (Schema.ofDecls d.input).mapError fun e => ((-1 : Int), Cause.input e)
    let body ← (bodyOf 0 d.statements).mapError fun e => ((e.1 : Int), Cause.statement e.2)
    .ok ⟨name, d.version, file, some input, body⟩

/-- Reads a program. -/
def parse (file text : String) : Except ParseError Program :=
  let fail := fun (i : Int) (c : Cause) => Except.error (⟨file, i, c⟩ : ParseError)
  match Yaml.load text with
  | .error e => fail (-1) (.yaml e)
  | .ok none => fail (-1) .empty
  | .ok (some root) =>
    let doc := Document.readProgram root
    if doc.errors.isEmpty then
      match draftOf file doc.result with
      | .error (i, c) => fail i c
      | .ok draft =>
        match draft.build with
        | .error e => fail (-1) (.build e)
        | .ok p => .ok p
    else fail (-1) (.shape doc.errors)

/-- Why a file gives no program. -/
inductive LoadError
  | unread (fault : Fault)
  | parse (error : ParseError)

def LoadError.fault : LoadError → Fault
  | .unread f => f
  | .parse e => e.fault

def parseFile (fs : Files) (path : String) : Except LoadError Program :=
  match fs.read path with
  | .error f => .error (.unread (f.within "failed to read program: "))
  | .ok text => (parse path text).mapError .parse

/-- Whether a file name is one of a program. -/
def isProgramFile (name : String) : Bool :=
  let e := Text.lower (Path.extension name)
  e = ".yaml" || e = ".yml"

/-- Reads program files in turn; `seen` holds the names so far with their files. -/
def parseFiles (fs : Files) : List String → List (String × String) → Except LoadError (List Program)
  | [], _ => .ok []
  | f :: rest, seen => do
    let p ← parseFile fs f
    match seen.find? fun s => s.1 = p.name with
    | some s => .error (.parse ⟨f, -1, .repeated p.name s.2⟩)
    | none =>
      let ps ← parseFiles fs rest ((p.name, f) :: seen)
      .ok (p :: ps)

/-- The programs of a directory, in the order of their file names. -/
def loadDir (fs : Files) (dir : String) : Except LoadError (List Program) :=
  match fs.names dir with
  | .error f => .error (.unread (f.within "failed to read programs dir: "))
  | .ok names =>
    parseFiles fs (Text.sort ((names.filter isProgramFile).map (Path.join dir))) []

end Source
end Courier
