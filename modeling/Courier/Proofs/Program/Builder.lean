import Courier.Proofs.Program.Layout

/-! Builders that are built more than once.
A builder keeps in each statement the number it was last declared with, and declares and lays out its
statements by adding to lists. Whatever numbers are left from before, what it builds is the program of
its draft. -/
namespace Courier

/-- A statement of a builder, with the number it was last declared with. -/
inductive Entry
  | assign (number : Int) (target : String) (value : Expr)
  | reply (number : Int) (value : Expr)
  | cond (number : Int) (condition : Expr) (onTrue onFalse : List Entry)

namespace Entry

mutual
/-- The statement without its numbers. -/
def stmt : Entry → Stmt
  | .assign _ target value => .assign target value
  | .reply _ value => .reply value
  | .cond _ c t e => .cond c (block t) (block e)
def block : List Entry → List Stmt
  | [] => []
  | s :: b => s.stmt :: block b
end

mutual
/-- Declares a statement after those that are declared already, and numbers it by its place. -/
def declare (file : String) (done : List Statement) : Entry → Entry × List Statement
  | .assign _ target value =>
    (.assign done.length target value,
      done ++ [⟨done.length, .assign, target, value, .empty, ⟨file, done.length⟩⟩])
  | .reply _ value =>
    (.reply done.length value,
      done ++ [⟨done.length, .reply, "", value, .empty, ⟨file, done.length⟩⟩])
  | .cond _ c t e =>
    let onTrue := declareAll file
      (done ++ [⟨done.length, .cond, "", .empty, c, ⟨file, done.length⟩⟩]) t
    let onFalse := declareAll file onTrue.2 e
    (.cond done.length c onTrue.1 onFalse.1, onFalse.2)
def declareAll (file : String) (done : List Statement) : List Entry → List Entry × List Statement
  | [] => ([], done)
  | s :: b =>
    let first := s.declare file done
    let rest := declareAll file first.2 b
    (first.1 :: rest.1, rest.2)
end

mutual
/-- Adds the nodes of a statement, which belong to the number that the statement carries, and gives the
node it is entered at. -/
def link (nodes : List Node) (next : Int) : Entry → List Node × Int
  | .assign number _ _ => (nodes ++ [.assign nodes.length number next], nodes.length)
  | .reply number _ => (nodes ++ [.reply nodes.length number next], nodes.length)
  | .cond number _ t e =>
    let onTrue := linkAll nodes next t
    let onFalse := linkAll onTrue.1 next e
    (onFalse.1 ++ [.branch onFalse.1.length number onTrue.2 onFalse.2], onFalse.1.length)
def linkAll (nodes : List Node) (next : Int) : List Entry → List Node × Int
  | [] => (nodes, next)
  | s :: b =>
    let rest := linkAll nodes next b
    s.link rest.1 rest.2
end

mutual
/-- A statement as it is kept once it was declared with the number `i`. -/
def numbered (i : Nat) : Stmt → Entry
  | .assign target value => .assign i target value
  | .reply value => .reply i value
  | .cond c t e => .cond i c (numberedAll (i + 1) t) (numberedAll (i + 1 + Block.count t) e)
def numberedAll (i : Nat) : List Stmt → List Entry
  | [] => []
  | s :: b => numbered i s :: numberedAll (i + Block.stmtCount s) b
end

mutual
theorem stmt_numbered (i : Nat) (s : Stmt) : (numbered i s).stmt = s := by
  cases s with
  | assign target value => rfl
  | reply value => rfl
  | cond c t e =>
    have ht := block_numberedAll (i + 1) t
    have he := block_numberedAll (i + 1 + Block.count t) e
    rw [numbered, stmt, ht, he]
theorem block_numberedAll (i : Nat) (b : List Stmt) : block (numberedAll i b) = b := by
  cases b with
  | nil => rfl
  | cons s b =>
    have hs := stmt_numbered i s
    have hb := block_numberedAll (i + Block.stmtCount s) b
    rw [numberedAll, block, hs, hb]
end

mutual
/-- Declaring forgets the numbers of before: it numbers statements in the order they are written. -/
theorem declare_eq (file : String) (s : Entry) (done : List Statement) :
    s.declare file done =
      (numbered done.length s.stmt, done ++ Block.declareStmt file done.length s.stmt) := by
  cases s with
  | assign number target value => rfl
  | reply number value => rfl
  | cond number c t e =>
    -- The condition is declared first, then one branch after the other.
    let own : Statement := ⟨done.length, .cond, "", .empty, c, ⟨file, done.length⟩⟩
    have hown : (done ++ [own]).length = done.length + 1 := List.length_append
    have ht := declareAll_eq file t (done ++ [own])
    rw [hown] at ht
    have he := declareAll_eq file e
      (done ++ [own] ++ Block.declare file (done.length + 1) (block t))
    rw [List.length_append, hown, Block.length_declare] at he
    simp only [declare, stmt, numbered, Block.declareStmt]
    rw [ht, he]
    simp only [own, List.append_assoc, List.cons_append, List.nil_append]
theorem declareAll_eq (file : String) (b : List Entry) (done : List Statement) :
    declareAll file done b =
      (numberedAll done.length (block b), done ++ Block.declare file done.length (block b)) := by
  cases b with
  | nil => simp only [declareAll, block, numberedAll, Block.declare, List.append_nil]
  | cons s b =>
    have hs := declare_eq file s done
    have hb := declareAll_eq file b (done ++ Block.declareStmt file done.length s.stmt)
    rw [List.length_append, Block.length_declareStmt] at hb
    simp only [declareAll, block, numberedAll, Block.declare, hs, hb, List.append_assoc]
end

mutual
/-- Nodes that are added one after the other stand as they are laid out from that place on. -/
theorem link_numbered (s : Stmt) (i : Nat) (nodes : List Node) (next : Int) :
    (numbered i s).link nodes next = (nodes ++ (Block.linkStmt i nodes.length next s).nodes,
      (Block.linkStmt i nodes.length next s).entry) := by
  cases s with
  | assign target value => rfl
  | reply value => rfl
  | cond c t e =>
    have ht := linkAll_numberedAll t (i + 1) nodes next
    have he := linkAll_numberedAll e (i + 1 + Block.count t)
      (nodes ++ (Block.link (i + 1) nodes.length next t).nodes) next
    rw [List.length_append] at he
    simp only [numbered, link, Block.linkStmt, ht, he, List.length_append]
    simp only [List.append_assoc]
theorem linkAll_numberedAll (b : List Stmt) (i : Nat) (nodes : List Node) (next : Int) :
    linkAll nodes next (numberedAll i b) = (nodes ++ (Block.link i nodes.length next b).nodes,
      (Block.link i nodes.length next b).entry) := by
  cases b with
  | nil => simp only [numberedAll, linkAll, Block.link, List.append_nil]
  | cons s b =>
    -- The rest of the block comes first, and the statement goes on at its entry.
    have hb := linkAll_numberedAll b (i + Block.stmtCount s) nodes next
    have hs := link_numbered s i
      (nodes ++ (Block.link (i + Block.stmtCount s) nodes.length next b).nodes)
      (Block.link (i + Block.stmtCount s) nodes.length next b).entry
    rw [List.length_append] at hs
    simp only [numberedAll, linkAll, Block.link, hb, hs, List.append_assoc]
end

end Entry

/-- A program under construction. -/
structure Builder where
  name : String
  version : String
  file : String
  input : Option Schema
  root : List Entry

namespace Builder

/-- What is built, without the numbers that are left from before. -/
def draft (b : Builder) : Draft := ⟨b.name, b.version, b.file, b.input, Entry.block b.root⟩

/-- Builds the program. The statements of the builder keep the numbers they are given. -/
def build (b : Builder) : Builder × Except BuildError Program :=
  let declared := Entry.declareAll b.file [] b.root
  let linked := Entry.linkAll [] noNode declared.1
  let p : Program :=
    ⟨b.name, b.version, some ⟨linked.1.map some, declared.2, linked.2⟩, b.input⟩
  ({ b with root := declared.1 },
    match p.check with
    | .ok _ => .ok p
    | .error e => .error ⟨e⟩)

/-- Building gives the program of the draft and leaves the draft as it was. -/
theorem build_eq (b : Builder) : b.build.2 = b.draft.build ∧ b.build.1.draft = b.draft := by
  have hdeclared := Entry.declareAll_eq b.file b.root []
  have hlinked := Entry.linkAll_numberedAll (Entry.block b.root) 0 [] noNode
  rw [List.length_nil, List.nil_append] at hdeclared hlinked
  constructor
  · simp only [build, hdeclared, hlinked]
    rfl
  · simp only [build, hdeclared, draft, Entry.block_numberedAll]

end Builder
end Courier
