import Courier.Text.Fold

/-!
Integer literals of 64 bits. A literal has a sign and a mark for its base, if it has any: `0x`, `0o`
or `0` and `0b`. An underscore may stand between digits and behind the mark.
-/

namespace Courier.Literal

inductive LiteralError
  | syntaxError
  | outOfRange
  deriving DecidableEq

/-- The value of a digit in any base up to 36. -/
def digit? (c : Char) : Option Nat :=
  let c := Text.lowerChar c
  if '0' ≤ c ∧ c ≤ '9' then some (c.toNat - 48)
  else if 'a' ≤ c ∧ c ≤ 'z' then some (c.toNat - 87)
  else none

/-- The base of a literal without a sign, and the characters behind its mark. -/
def base : List Char → Nat × List Char
  | '0' :: m :: c :: cs =>
    match Text.lowerChar m with
    | 'b' => (2, c :: cs)
    | 'o' => (8, c :: cs)
    | 'x' => (16, c :: cs)
    | _ => (8, m :: c :: cs)
  | '0' :: cs => (8, cs)
  | cs => (10, cs)

/-- The number with these digits; underscores are passed over. -/
def digits? (base : Nat) : Nat → List Char → Option Nat
  | n, [] => some n
  | n, c :: cs =>
    if c = '_' then digits? base n cs
    else
      match digit? c with
      | some d => if d < base then digits? base (n * base + d) cs else none
      | none => none

/-- Whether each underscore stands behind a digit or the mark and in front of a digit; `ready` says
that one may stand here. -/
def spaced : (ready : Bool) → List Char → Bool
  | _, [] => true
  | true, '_' :: c :: cs => c ≠ '_' && spaced true (c :: cs)
  | _, '_' :: _ => false
  | _, _ :: cs => spaced true cs

def natural? (cs : List Char) : Option Nat :=
  let (b, ds) := base cs
  let marked := 2 ≤ cs.length - ds.length || (b = 8 && !ds.isEmpty)
  if cs.isEmpty || !spaced marked ds then none else digits? b 0 ds

/-- The sign of a literal and what follows it. -/
def sign : List Char → Bool × List Char
  | '-' :: cs => (true, cs)
  | '+' :: cs => (false, cs)
  | cs => (false, cs)

def int64? (s : String) : Except LiteralError Int :=
  let (negative, cs) := sign s.toList
  match natural? cs with
  | none => .error .syntaxError
  | some n =>
    if negative then
      if n ≤ 9223372036854775808 then .ok (-(n : Int)) else .error .outOfRange
    else if n < 9223372036854775808 then .ok n
    else .error .outOfRange

end Courier.Literal
