/-!
Binary floating-point numbers as exact data: not-a-number, a signed infinity, or a signed dyadic
`m * 2 ^ e`. A finite number is kept with an odd mantissa (zero with mantissa and exponent zero),
so two finite numbers of one sign are the same number exactly when they are the same data.
-/

namespace Courier

/-- A floating-point number. `finite s m e` is `m * 2 ^ e`, negated when `s` holds. -/
inductive Binary
  | nan
  | infinite (negative : Bool)
  | finite (negative : Bool) (mantissa : Nat) (exponent : Int)
  deriving DecidableEq, Repr, Inhabited

namespace Binary

/-- A format holds the values `m * 2 ^ e` with `m < 2 ^ precision` and
`minExponent ≤ e ≤ maxExponent`. -/
structure Format where
  precision : Nat
  minExponent : Int
  maxExponent : Int
  deriving DecidableEq, Repr

/-- Double precision. -/
def Format.double : Format := ⟨53, -1074, 971⟩

/-- Single precision. -/
def Format.single : Format := ⟨24, -149, 104⟩

/-- The larger of two exponents. -/
def larger (a b : Int) : Int := if a < b then b else a

/-- The smaller of two exponents. -/
def smaller (a b : Int) : Int := if a < b then a else b

def zero : Binary := .finite false 0 0

/-- Moves factors of two from the mantissa to the exponent, at most `fuel` of them. -/
def oddPart : Nat → Nat → Int → Nat × Int
  | 0, m, e => (m, e)
  | fuel + 1, m, e => if m % 2 = 0 then oddPart fuel (m / 2) (e + 1) else (m, e)

/-- The number `m * 2 ^ e` in its one representation. -/
def ofDyadic (negative : Bool) (m : Nat) (e : Int) : Binary :=
  if m = 0 then .finite negative 0 0
  else
    let r := oddPart m.log2 m e
    .finite negative r.1 r.2

/-- `num / den` to the nearest integer, a half going to the even neighbour. -/
def roundHalfEven (num den : Nat) : Nat :=
  let q := num / den
  let r := num % den
  if 2 * r < den then q
  else if den < 2 * r then q + 1
  else if q % 2 = 0 then q else q + 1

/-- `num * 2 ^ (-e)` over `den`, as a pair of naturals. -/
def scaled (num den : Nat) (e : Int) : Nat × Nat :=
  if 0 ≤ e then (num, den * Nat.pow 2 e.toNat) else (num * Nat.pow 2 (-e).toNat, den)

/-- The exponent at which `num / den` has a mantissa of exactly `precision` bits. -/
def leadingExponent (f : Format) (num den : Nat) : Int :=
  let e : Int := (num.log2 : Int) - den.log2 - f.precision
  let s := scaled num den (e + f.precision)
  if s.1 < s.2 then e else e + 1

/-- The ratio `num / den` rounded to a format, a tie going to the even mantissa and a value past
the largest one to infinity. -/
def ofRatio (f : Format) (negative : Bool) (num den : Nat) : Binary :=
  if num = 0 then .finite negative 0 0
  else
    let e := larger (leadingExponent f num den) f.minExponent
    let s := scaled num den e
    let m := roundHalfEven s.1 s.2
    if f.maxExponent < e ∨ (e = f.maxExponent ∧ m = Nat.pow 2 f.precision) then .infinite negative
    else ofDyadic negative m e

/-- An integer rounded to a format. -/
def ofInt (f : Format) (n : Int) : Binary :=
  ofRatio f (n < 0) n.natAbs 1

/-- `digits * 10 ^ exponent` rounded to a format. The first two cases decide magnitudes beyond
every format without building them. -/
def ofDecimal (f : Format) (negative : Bool) (digits : Nat) (exponent : Int) : Binary :=
  let size : Int := (Nat.toDigits 10 digits).length + exponent
  if digits = 0 ∨ size < -400 then .finite negative 0 0
  else if 400 < size then .infinite negative
  else if 0 ≤ exponent then ofRatio f negative (digits * Nat.pow 10 exponent.toNat) 1
  else ofRatio f negative digits (Nat.pow 10 (-exponent).toNat)

def isNaN : Binary → Bool
  | .nan => true
  | _ => false

def isZero : Binary → Bool
  | .finite _ 0 _ => true
  | _ => false

def isFinite : Binary → Bool
  | .finite .. => true
  | _ => false

def isNegative : Binary → Bool
  | .nan => false
  | .infinite s => s
  | .finite s _ _ => s

/-- Numeric equality: not-a-number differs from everything, and the two zeros agree. -/
def numEq : Binary → Binary → Bool
  | .nan, _ => false
  | _, .nan => false
  | .finite _ 0 _, .finite _ 0 _ => true
  | a, b => a = b

/-- A whole number, without a fractional part. -/
def isWhole : Binary → Bool
  | .finite _ m e => m = 0 || 0 ≤ e
  | _ => false

/-- The integer part, dropping the fraction; `none` for infinities and not-a-number. -/
def truncate : Binary → Option Int
  | .finite s m e =>
    let n := if 0 ≤ e then m * Nat.pow 2 e.toNat else m / Nat.pow 2 (-e).toNat
    some (if s then -n else n)
  | _ => none

/-- Whether `m₁ * 2 ^ e₁ < m₂ * 2 ^ e₂`. -/
def magnitudeLt (m₁ : Nat) (e₁ : Int) (m₂ : Nat) (e₂ : Int) : Bool :=
  let e := smaller e₁ e₂
  m₁ * Nat.pow 2 (e₁ - e).toNat < m₂ * Nat.pow 2 (e₂ - e).toNat

/-- The numeric order on numbers other than not-a-number, which stands below them all. -/
def lt : Binary → Binary → Bool
  | .nan, .nan => false
  | .nan, _ => true
  | _, .nan => false
  | .infinite s, .infinite t => s && !t
  | .infinite s, .finite .. => s
  | .finite .., .infinite t => !t
  | .finite s m e, .finite t n k =>
    if m = 0 ∧ n = 0 then false
    else match s, t with
      | false, false => magnitudeLt m e n k
      | true, true => magnitudeLt n k m e
      | true, false => true
      | false, true => false

end Binary
end Courier
