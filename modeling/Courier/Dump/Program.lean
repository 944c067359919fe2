import Courier.Dump.Value
import Courier.Program.Block
import Courier.Schema.Decl

/-!
Dumps of expressions, blocks, graphs and programs as JSON.
-/

namespace Courier

open Json (textPair intPair boolPair textsPair)

namespace Op

/-- The operation of a dumped expression. -/
def ofDump (j : Json) : Op :=
  match j.textAt "op" with
  | "" => .empty
  | "lit" => .lit (.ofDump (j.get "value"))
  | "var" => .var (j.textAt "name")
  | "field" => .field (j.textAt "name")
  | "eq" => .eq
  | "not" => .not
  | other => .unknown other

end Op

namespace Expr

mutual
/-- An expression is dumped with what its operation uses: a value, a name or arguments. -/
def dump : Expr → Json
  | .apply op args =>
    let applied (name : String) : Json := .object [textPair "op" name, ("args", .list (dumpArgs args))]
    match op with
    | .empty => .null
    | .lit v => .object [textPair "op" "lit", ("value", v.dump)]
    | .var n => .object [textPair "op" "var", textPair "name" n]
    | .field n => .object [textPair "op" "field", textPair "name" n]
    | .eq => applied "eq"
    | .not => applied "not"
    | .unknown name => applied name
def dumpArgs : List Expr → List Json
  | [] => []
  | e :: es => e.dump :: dumpArgs es
end

mutual
def ofDump : Json → Expr
  | .object ms => .apply (.ofDump (.object ms)) (argsIn ms)
  | _ => .apply .empty []
/-- The arguments among the members of a dumped expression. -/
def argsIn : List (String × Json) → List Expr
  | [] => []
  | (k, j) :: ms => if k = "args" then argsOfDump j else argsIn ms
def argsOfDump : Json → List Expr
  | .list js => ofDumps js
  | _ => []
def ofDumps : List Json → List Expr
  | [] => []
  | j :: js => ofDump j :: ofDumps js
end

end Expr

namespace Stmt

mutual
/-- A statement is known by its members: `assign`, `if`, or else a reply. -/
def ofDump : Json → Stmt
  | .object ms =>
    let j := Json.object ms
    if (j.member? "assign").isSome then .assign (j.textAt "assign") (.ofDump (j.get "value"))
    else if (j.member? "if").isSome then
      .cond (.ofDump (j.get "if")) (blockIn "then" ms) (blockIn "else" ms)
    else .reply (.ofDump (j.get "reply"))
  | _ => .reply (.apply .empty [])
def blockIn (name : String) : List (String × Json) → List Stmt
  | [] => []
  | (k, j) :: ms => if k = name then blockOfDump j else blockIn name ms
def blockOfDump : Json → List Stmt
  | .list js => ofDumps js
  | _ => []
def ofDumps : List Json → List Stmt
  | [] => []
  | j :: js => ofDump j :: ofDumps js
end

end Stmt

namespace Node

def dump (n : Node) : Json :=
  .object ([intPair "id" n.id, textPair "kind" n.kind.name, intPair "stmt" n.parent] ++
    match n with
    | .branch _ _ t e => [intPair "then" t, intPair "else" e]
    | n => [intPair "next" (n.successor false)])

/-- A node whose id and statement are its place unless said otherwise. -/
def ofDump? (place : Nat) (j : Json) : Option Node :=
  let id := j.intOr place "id"
  let stmt := j.intOr place "stmt"
  if j.isNull then none
  else if j.textAt "kind" = "branch" then
    some (.branch id stmt (j.intOr noNode "then") (j.intOr noNode "else"))
  else if j.textAt "kind" = "reply" then some (.reply id stmt (j.intOr noNode "next"))
  else some (.assign id stmt (j.intOr noNode "next"))

end Node

namespace Statement

def dump (s : Statement) : Json :=
  .object [intPair "id" s.id, textPair "kind" s.kind.name, textPair "target" s.target,
    ("value", s.value.dump), ("cond", s.cond.dump), textPair "pos" s.position.text,
    textPair "text" s.text]

def ofDump (place : Nat) (j : Json) : Statement :=
  ⟨j.intOr place "id", .ofName (j.textAt "kind"), j.textAt "target", .ofDump (j.get "value"),
    .ofDump (j.get "cond"), ⟨j.textAt "file", j.intOr place "index"⟩⟩

end Statement

namespace Graph

def dump (g : Graph) : Json :=
  .object [intPair "entry" g.entry, intPair "len" g.nodes.length,
    ("nodes", .list (g.nodes.map (.ofOption Node.dump))),
    ("stmts", .list (g.statements.map Statement.dump))]

def ofDump (j : Json) : Graph where
  nodes := ((j.listAt "nodes").zipIdx).map fun (n, i) => Node.ofDump? i n
  statements := ((j.listAt "stmts").zipIdx).map fun (s, i) => Statement.ofDump i s
  entry := j.intAt "entry"

end Graph

namespace Schema

def dump (s : Schema) : Json := .object (s.map fun (k, t) => (k, .text t.name))

def ofDump (j : Json) : Except DeclError (Option Schema) :=
  if j.isNull then .ok none
  else (ofDecls (Keyed.ofList (j.asMembers.map fun (k, v) => (k, v.asText)))).map some

end Schema

namespace Program

/-- The members of a dumped program; one without a graph has no such member. -/
def dump (p : Program) : List (String × Json) :=
  [textPair "name" p.name, textPair "version" p.version, ("input", .ofOption Schema.dump p.input)] ++
    match p.graph with
    | some g => [("graph", g.dump)]
    | none => []

/-- A dumped program: built from its `body`, or else with its `graph` as it stands. -/
def ofDump (j : Json) : Except Fault Program := do
  let input ← (Schema.ofDump (j.get "input")).mapError fun e => ⟨e.message, []⟩
  let name := j.textAt "name"
  let version := j.textAt "version"
  if (j.member? "body").isSome then
    let body := Stmt.blockOfDump (j.get "body")
    (Draft.build ⟨name, version, j.textAt "file", input, body⟩).mapError fun e => e.fault
  else
    let g := j.get "graph"
    return ⟨name, version, if g.isNull then none else some (.ofDump g), input⟩

end Program
end Courier
