import Courier.Number.Binary

/-!
Decimal text of floating-point numbers: the fewest digits that read back, and the layouts in which
they are written.
-/

namespace Courier

/-- `digits * 10 ^ exponent`. -/
structure Decimal where
  digits : Nat
  exponent : Int
  deriving DecidableEq, Repr

namespace Decimal

def digitText (n : Nat) : List Char := Nat.toDigits 10 n

/-- Drops trailing zero digits, at most `fuel` of them. -/
def trimZeros : Nat → Nat → Int → Decimal
  | 0, d, e => ⟨d, e⟩
  | fuel + 1, d, e => if d ≠ 0 ∧ d % 10 = 0 then trimZeros fuel (d / 10) (e + 1) else ⟨d, e⟩

/-- The decimal exponent of the first digit of `num / den`. -/
def leadingPlace (num den : Nat) : Int :=
  if den ≤ num then (digitText (num / den)).length - 1
  else -((digitText ((den - 1) / num)).length : Int)

/-- The reals that round to a number, as multiples of a quarter unit in its last place over a
common denominator. -/
structure Interval where
  low : Nat
  value : Nat
  high : Nat
  den : Nat
  closed : Bool

/-- The interval of `m * 2 ^ e` in a format: halfway to either neighbour, a quarter unit below a
power of two, with its ends when the mantissa is even. -/
def Interval.of (f : Binary.Format) (m : Nat) (e : Int) : Interval :=
  let shift := Binary.smaller ((f.precision : Int) - 1 - m.log2) (e - f.minExponent)
  let full := m * Nat.pow 2 shift.toNat
  let unit := e - shift
  let below := if full = Nat.pow 2 (f.precision - 1) ∧ f.minExponent < unit then 1 else 2
  let up := Nat.pow 2 (unit - 2).toNat
  ⟨(4 * full - below) * up, 4 * full * up, (4 * full + 2) * up, Nat.pow 2 (2 - unit).toNat, full % 2 = 0⟩

/-- Whether `c * 10 ^ t` lies in the interval. -/
def Interval.holds (i : Interval) (c : Nat) (t : Int) : Bool :=
  let x := c * Nat.pow 10 t.toNat * i.den
  let scale := Nat.pow 10 (-t).toNat
  if i.closed then i.low * scale ≤ x ∧ x ≤ i.high * scale
  else i.low * scale < x ∧ x < i.high * scale

/-- Looks for a decimal of `n`, `n + 1`, … digits in the interval; of two neighbours that fit, the
nearer one is taken. -/
def Interval.search (i : Interval) (place : Int) : Nat → Nat → Decimal
  | 0, n => ⟨i.value / i.den, n⟩
  | fuel + 1, n =>
    let t : Int := place + 1 - n
    let num := i.value * Nat.pow 10 (-t).toNat
    let den := i.den * Nat.pow 10 t.toNat
    let lo := num / den
    let nearer := if 2 * (num % den) ≤ den then [lo, lo + 1] else [lo + 1, lo]
    match nearer.find? fun c => i.holds c t with
    | some c => ⟨c, t⟩
    | none => i.search place fuel (n + 1)

/-- The shortest decimal that rounds to `m * 2 ^ e` in a format, without trailing zeros. -/
def shortest (f : Binary.Format) (m : Nat) (e : Int) : Decimal :=
  if m = 0 then ⟨0, 0⟩
  else
    let i := Interval.of f m e
    let d := i.search (leadingPlace i.value i.den) 20 1
    trimZeros 20 d.digits d.exponent

/-- How digits are laid out: which places of the first digit are written positionally, and how many
digits an exponent has at least. -/
structure Layout where
  positional : Int → Bool
  exponentWidth : Nat

/-- The digits with a point at the right place. -/
def positional (ds : List Char) (point : Int) : List Char :=
  if point ≤ 0 then '0' :: '.' :: (List.replicate (-point).toNat '0' ++ ds)
  else if (ds.length : Int) ≤ point then ds ++ List.replicate (point.toNat - ds.length) '0'
  else ds.take point.toNat ++ '.' :: ds.drop point.toNat

/-- The digits after the first behind a point, then an exponent with its sign. -/
def exponential (width : Nat) (ds : List Char) (place : Int) : List Char :=
  let es := digitText place.natAbs
  ds.take 1 ++ (if ds.length ≤ 1 then [] else '.' :: ds.drop 1) ++ 'e' ::
    (if place < 0 then '-' else '+') :: (List.replicate (width - es.length) '0' ++ es)

def write (l : Layout) (d : Decimal) : List Char :=
  if d.digits = 0 then ['0']
  else
    let ds := digitText d.digits
    let point := (ds.length : Int) + d.exponent
    if l.positional (point - 1) then positional ds point else exponential l.exponentWidth ds (point - 1)

end Decimal

namespace Binary

/-- A number in a format, written with the fewest digits that read back. -/
def text (f : Format) (l : Decimal.Layout) : Binary → String
  | .nan => "NaN"
  | .infinite true => "-Inf"
  | .infinite false => "+Inf"
  | .finite s m e =>
    String.ofList ((if s then ['-'] else []) ++ (Decimal.shortest f m e).write l)

end Binary
end Courier
