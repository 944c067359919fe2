import Courier.Text.Quoted
import Courier.Value.Show

/-!
Expressions: an operator applied to operands. The forms programs are written with are literals,
variables, payload fields, equality and negation; the others arise only in hand-made programs and
have no value.
-/

namespace Courier

/-- The head of an expression. -/
inductive Op
  | empty
  | lit (value : Value)
  | var (name : String)
  | field (path : String)
  | eq
  | not
  | unknown (name : String)

inductive Expr
  | apply (op : Op) (args : List Expr)

namespace Expr

def empty : Expr := .apply .empty []

instance : Inhabited Expr := ⟨empty⟩

def lit (v : Value) : Expr := .apply (.lit v) []

def var (name : String) : Expr := .apply (.var name) []

def field (path : String) : Expr := .apply (.field path) []

def eq (a b : Expr) : Expr := .apply .eq [a, b]

def not (a : Expr) : Expr := .apply .not [a]

def op : Expr → Op
  | .apply o _ => o

def args : Expr → List Expr
  | .apply _ as => as

/-- An expression that was never given. -/
def isEmpty : Expr → Bool
  | .apply .empty _ => true
  | _ => false

mutual
/-- The written form of an expression. -/
def text : Expr → String
  | .apply op args =>
    match op with
    | .lit (.text s) => Text.quote s
    | .lit v => v.display
    | .var name => name
    | .field path => "msg." ++ path
    | .eq => String.intercalate " == " (texts args)
    | .not =>
      match texts args with
      | [t] => "!" ++ t
      | _ => "<invalid>"
    | _ => "<invalid>"
def texts : List Expr → List String
  | [] => []
  | e :: es => e.text :: texts es
end

mutual
/-- The expressions inside an expression, itself included, before their operands. Nothing is looked
for below an empty expression. -/
def subterms : Expr → List Expr
  | .apply op args =>
    match op with
    | .empty => []
    | op => .apply op args :: subtermsAll args
def subtermsAll : List Expr → List Expr
  | [] => []
  | e :: es => e.subterms ++ subtermsAll es
end

end Expr
end Courier
