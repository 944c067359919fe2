import Courier.Number.Binary
import Courier.Time.Instant

/-!
Lengths of time in nanoseconds: their written form, such as `1h1m1.001s`, and its reader.
-/

namespace Courier.Duration

/-- `n / 10 ^ places` with the zeros at the end of the fraction dropped. -/
def fixedPoint (n places : Nat) : String :=
  let unit := Nat.pow 10 places
  let whole := toString (n / unit)
  let rest := n % unit
  if rest = 0 then whole
  else
    let ds := (Instant.padded places rest).toList
    whole ++ "." ++ String.ofList (ds.reverse.dropWhile (· = '0')).reverse

def magnitudeText (n : Nat) : String :=
  if n = 0 then "0s"
  else if n < 1000 then toString n ++ "ns"
  else if n < 1000000 then fixedPoint n 3 ++ "µs"
  else if n < 1000000000 then fixedPoint n 6 ++ "ms"
  else
    let minutes := n / 60000000000
    let seconds := fixedPoint (n % 60000000000) 9 ++ "s"
    if minutes = 0 then seconds
    else if minutes < 60 then toString minutes ++ "m" ++ seconds
    else toString (minutes / 60) ++ "h" ++ toString (minutes % 60) ++ "m" ++ seconds

/-- The largest unit that fits leads; from a second on, minutes and hours are split off. -/
def text (n : Int) : String :=
  if n < 0 then "-" ++ magnitudeText n.natAbs else magnitudeText n.natAbs

/-- Nanoseconds in a unit. -/
def unit? (u : String) : Option Nat :=
  if u = "ns" then some 1
  else if u = "us" ∨ u = "µs" ∨ u = "μs" then some 1000
  else if u = "ms" then some 1000000
  else if u = "s" then some 1000000000
  else if u = "m" then some 60000000000
  else if u = "h" then some 3600000000000
  else none

def isDigit (c : Char) : Bool := '0' ≤ c && c ≤ '9'

/-- The largest magnitude a length can have. -/
def bound : Nat := 9223372036854775808

/-- The digits of a fraction as a number and its scale, as far as the number stays in bounds. -/
def fractionOf : List Char → Nat × Nat
  | ds => ds.foldl (fun (a : Nat × Nat × Bool) c =>
      let y := a.1 * 10 + (c.toNat - 48)
      if a.2.2 ∨ (bound - 1) / 10 < a.1 ∨ bound < y then (a.1, a.2.1, true)
      else (y, a.2.1 * 10, false)) (0, 1, false) |> fun a => (a.1, a.2.1)

/-- The product of two non-negative doubles, rounded to a double and then cut to an integer. -/
def productFloor (a b : Binary) : Nat :=
  match a, b with
  | .finite _ m e, .finite _ n k =>
    let s := Binary.scaled (m * n) 1 (-(e + k))
    match (Binary.ofRatio .double false s.1 s.2).truncate with
    | some i => i.toNat
    | none => 0
  | _, _ => 0

/-- Nanoseconds of a fraction of a unit, computed in doubles. -/
def fractionNanos (f scale unit : Nat) : Nat :=
  productFloor (Binary.ofInt .double f) (Binary.ofRatio .double false unit scale)

/-- Reads numbers with units up to the end; at most `fuel` of them. -/
def sumUnits : Nat → List Char → Nat → Option Nat
  | 0, _, _ => none
  | _ + 1, [], total => some total
  | fuel + 1, cs, total =>
    let whole := cs.takeWhile isDigit
    let rest := cs.drop whole.length
    let fraction := match rest with
      | '.' :: r => r.takeWhile isDigit
      | _ => []
    let rest := match rest with
      | '.' :: r => r.drop fraction.length
      | r => r
    let word := rest.takeWhile fun c => !(c = '.' || isDigit c)
    let v := whole.foldl (fun n c => n * 10 + (c.toNat - 48)) 0
    if whole.isEmpty ∧ fraction.isEmpty ∨ bound < v then none
    else
      match unit? (String.ofList word) with
      | none => none
      | some u =>
        let f := fractionOf fraction
        let n := v * u + (if f.1 = 0 then 0 else fractionNanos f.1 f.2 u)
        if bound / u < v ∨ bound < n ∨ bound < total + n then none
        else sumUnits fuel (rest.drop word.length) (total + n)

/-- Reads a sign and numbers with units such as `1h30m`; a bare zero needs none. -/
def ofText? (s : String) : Option Int :=
  let (negative, cs) := match s.toList with
    | '-' :: cs => (true, cs)
    | '+' :: cs => (false, cs)
    | cs => (false, cs)
  if cs = ['0'] then some 0
  else if cs.isEmpty then none
  else
    match sumUnits (cs.length + 1) cs 0 with
    | none => none
    | some n =>
      if negative then some (-(n : Int)) else if n < bound then some n else none

end Courier.Duration
