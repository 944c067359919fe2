import Courier.Value.Basic

/-!
Truth and equality of values. Numbers of any kind are compared as doubles when both sides are
numbers; everything else is compared by structure, where numbers of different kinds differ.
-/

namespace Courier.Value

mutual
/-- Structural equality: the same constructors, kinds and contents throughout. Values have no identity
here, so that two containers of one not-a-number always differ, and nothing is said of comparing a container
in memory with itself, which would not look inside. -/
def same : Value → Value → Bool
  | .null, .null => true
  | .bool a, .bool b => a = b
  | .text a, .text b => a = b
  | .int k a, .int l b => k = l && a = b
  | .float a, .float b => a.numEq b
  | .single a, .single b => a.numEq b
  | .bytes a, .bytes b => a = b
  | .texts a, .texts b => a = b
  | .list a, .list b => sameList a b
  | .record a, .record b => sameFields a b
  | .table a, .table b => sameEntries a b
  | .time a, .time b => a = b
  | _, _ => false
def sameList : List Value → List Value → Bool
  | [], [] => true
  | a :: as, b :: bs => same a b && sameList as bs
  | _, _ => false
def sameFields : List (String × Value) → List (String × Value) → Bool
  | [], [] => true
  | (k, a) :: as, (l, b) :: bs => k = l && same a b && sameFields as bs
  | _, _ => false
def sameEntries : List (Value × Value) → List (Value × Value) → Bool
  | [], [] => true
  | (k, a) :: as, (l, b) :: bs => same k l && same a b && sameEntries as bs
  | _, _ => false
end

/-- Equality as programs see it. -/
def equal (a b : Value) : Bool :=
  match a.toDouble?, b.toDouble? with
  | some x, some y => x.numEq y
  | _, _ => same a b

/-- Null, false, zero and the empty text are false; everything else is true. -/
def truthy (v : Value) : Bool :=
  match v with
  | .null => false
  | .bool b => b
  | .text s => s ≠ ""
  | v =>
    match v.toDouble? with
    | some x => !x.isZero
    | none => true

end Courier.Value
