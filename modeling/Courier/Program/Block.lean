import Courier.Program.Basic

/-!
Programs as statement blocks, and their graphs. Statements are numbered in the order they are written.
Nodes are laid out from the end of the program backwards, so that the successor of a node is always
there before it.
-/

namespace Courier

/-- A statement of a block. -/
inductive Stmt
  | assign (target : String) (value : Expr)
  | reply (value : Expr)
  | cond (condition : Expr) (onTrue onFalse : List Stmt)

instance : Inhabited Stmt := ⟨.reply .empty⟩

/-- Statements that run one after the other. -/
abbrev Block := List Stmt

namespace Block

mutual
/-- The number of statements in a statement, itself included. -/
def stmtCount : Stmt → Nat
  | .assign .. => 1
  | .reply _ => 1
  | .cond _ t e => 1 + count t + count e
/-- The number of statements in a block, nested ones included. -/
def count : List Stmt → Nat
  | [] => 0
  | s :: b => stmtCount s + count b
end

mutual
/-- The statements of a statement, numbered from `i`. -/
def declareStmt (file : String) (i : Nat) : Stmt → List Statement
  | .assign target value => [⟨i, .assign, target, value, .empty, ⟨file, i⟩⟩]
  | .reply value => [⟨i, .reply, "", value, .empty, ⟨file, i⟩⟩]
  | .cond c t e =>
    ⟨i, .cond, "", .empty, c, ⟨file, i⟩⟩ ::
      (declare file (i + 1) t ++ declare file (i + 1 + count t) e)
/-- The statements of a block, numbered from `i` in the order they are written. -/
def declare (file : String) (i : Nat) : List Stmt → List Statement
  | [] => []
  | s :: b => declareStmt file i s ++ declare file (i + stmtCount s) b
end

/-- Nodes laid out from some position on, and the node they are entered at. -/
structure Linked where
  nodes : List Node
  entry : Int

mutual
/-- The nodes of statement number `i` from position `k` on, going on to `next`. -/
def linkStmt (i k : Nat) (next : Int) : Stmt → Linked
  | .assign .. => ⟨[.assign k i next], k⟩
  | .reply _ => ⟨[.reply k i next], k⟩
  | .cond _ t e =>
    let a := link (i + 1) k next t
    let b := link (i + 1 + count t) (k + a.nodes.length) next e
    let id := k + a.nodes.length + b.nodes.length
    ⟨a.nodes ++ b.nodes ++ [.branch id i a.entry b.entry], id⟩
/-- The nodes of a block whose first statement is number `i`, from position `k` on: those of the last
statement come first. -/
def link (i k : Nat) (next : Int) : List Stmt → Linked
  | [] => ⟨[], next⟩
  | s :: b =>
    let rest := link (i + stmtCount s) k next b
    let first := linkStmt i (k + rest.nodes.length) rest.entry s
    ⟨rest.nodes ++ first.nodes, first.entry⟩
end

/-- The graph of a block. -/
def graph (file : String) (b : List Stmt) : Graph :=
  let l := link 0 0 noNode b
  ⟨l.nodes.map some, declare file 0 b, l.entry⟩

end Block

/-- A program before its graph is laid out. -/
structure Draft where
  name : String
  version : String
  file : String
  input : Option Schema
  body : Block

/-- A draft that is no runnable program. -/
structure BuildError where
  error : ProgramError
  deriving DecidableEq

def BuildError.message (e : BuildError) : String := "failed to build program: " ++ e.error.message

def BuildError.fault (e : BuildError) : Fault := ⟨e.message, e.error.marks⟩

namespace Draft

def program (d : Draft) : Program := ⟨d.name, d.version, some (Block.graph d.file d.body), d.input⟩

/-- The checked program of a draft. -/
def build (d : Draft) : Except BuildError Program :=
  match d.program.check with
  | .ok _ => .ok d.program
  | .error e => .error ⟨e⟩

end Draft
end Courier
