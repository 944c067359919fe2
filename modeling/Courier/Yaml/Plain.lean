import Courier.Value.Json
import Courier.Yaml.Scalar

/-!
What a plain scalar stands for: null, a truth value, an integer, a floating-point number or an instant
when it is written like one, and its own text otherwise.
-/

namespace Courier.Yaml.Plain

def isDigit (c : Char) : Bool := '0' ≤ c && c ≤ '9'

/-- One or two digits. -/
def shortNumber : List Char → Option (Nat × List Char)
  | [] => none
  | a :: rest =>
    if isDigit a then
      match rest with
      | b :: cs =>
        if isDigit b then some ((a.toNat - 48) * 10 + (b.toNat - 48), cs)
        else some (a.toNat - 48, rest)
      | [] => some (a.toNat - 48, [])
    else none

/-- An optional fraction of a second behind a point or a comma. -/
def readFraction : List Char → Nat × List Char
  | c :: cs =>
    let ds := cs.takeWhile isDigit
    if (c = '.' ∨ c = ',') ∧ !ds.isEmpty then (Instant.nanosOf ds, cs.drop ds.length) else (0, c :: cs)
  | [] => (0, [])

/-- `Z` or an offset in hours and minutes; up to 24 hours and 60 minutes are taken. -/
def readZone : List Char → Option Zone
  | ['Z'] => some .utc
  | [sign, h, h', colon, m, m'] =>
    if (sign = '+' ∨ sign = '-') ∧ colon = ':' ∧ [h, h', m, m'].all isDigit then
      let hours := (h.toNat - 48) * 10 + (h'.toNat - 48)
      let minutes := (m.toNat - 48) * 10 + (m'.toNat - 48)
      let seconds : Int := hours * 3600 + minutes * 60
      if hours ≤ 24 ∧ minutes ≤ 60 then some (.fixed (if sign = '-' then -seconds else seconds))
      else none
    else none
  | _ => none

/-- A year of four digits, then a month and a day of one or two. -/
def readDate (cs : List Char) : Option (Int × Nat × Nat × List Char) := do
  let (year, cs) ← Instant.takeDigits 4 0 cs
  let cs ← Instant.expect '-' cs
  let (month, cs) ← shortNumber cs
  let cs ← Instant.expect '-' cs
  let (day, cs) ← shortNumber cs
  some (year, month, day, cs)

/-- Hours, minutes and seconds of one or two digits each, and a fraction. -/
def readClock (cs : List Char) : Option (Nat × Nat × Nat × Nat × List Char) := do
  let (hour, cs) ← shortNumber cs
  let cs ← Instant.expect ':' cs
  let (minute, cs) ← shortNumber cs
  let cs ← Instant.expect ':' cs
  let (second, cs) ← shortNumber cs
  let (nanos, cs) := readFraction cs
  some (hour, minute, second, nanos, cs)

/-- A date; a date and a time of day with a `T` between them and a zone behind; or the two with a
blank between them, shown at the meridian. -/
def instant? (cs : List Char) : Option Instant := do
  let (year, month, day, cs) ← readDate cs
  let make := fun hour minute second nanos zone =>
    let c : Civil := ⟨year, month, day, hour, minute, second⟩
    if c.isValid then some (Instant.ofCivil c nanos zone) else none
  match cs with
  | [] => make 0 0 0 0 .utc
  | mark :: cs =>
    let (hour, minute, second, nanos, cs) ← readClock cs
    if mark = 'T' ∨ mark = 't' then
      let zone ← readZone cs
      make hour minute second nanos zone
    else if mark = ' ' ∧ cs.isEmpty then make hour minute second nanos .utc
    else none

/-- The value of a digit in a base up to sixteen. -/
def digitIn (base : Nat) (c : Char) : Option Nat :=
  match Json.hexValue c with
  | some d => if d < base then some d else none
  | none => none

def digitsIn (base : Nat) : Nat → List Char → Option Nat
  | acc, [] => some acc
  | acc, c :: cs =>
    match digitIn base c with
    | some d => digitsIn base (acc * base + d) cs
    | none => none

/-- At least one digit of a base. -/
def naturalIn (base : Nat) (cs : List Char) : Option Nat :=
  if cs.isEmpty then none else digitsIn base 0 cs

/-- A natural number: hexadecimal behind `0x`, octal behind `0o` or a leading zero, binary behind
`0b`, and decimal otherwise. -/
def natural? : List Char → Option Nat
  | ['0'] => some 0
  | '0' :: c :: cs =>
    if cs.isEmpty then naturalIn 8 [c]
    else if c = 'x' ∨ c = 'X' then naturalIn 16 cs
    else if c = 'o' ∨ c = 'O' then naturalIn 8 cs
    else if c = 'b' ∨ c = 'B' then naturalIn 2 cs
    else naturalIn 8 (c :: cs)
  | cs => naturalIn 10 cs

/-- Splits a sign off. -/
def splitSign : List Char → Bool × Bool × List Char
  | '-' :: cs => (true, true, cs)
  | '+' :: cs => (true, false, cs)
  | cs => (false, false, cs)

/-- A number as a signed integer of 64 bits, if it fits. -/
def int64? (negative : Bool) (n : Nat) : Option Value :=
  if negative then if n ≤ 9223372036854775808 then some (.ofInt (-n)) else none
  else if n < 9223372036854775808 then some (.ofInt n) else none

/-- A number as a signed integer, or else as an unsigned one if it has no sign. -/
def integerOf (signed negative : Bool) (n : Nat) : Option Value :=
  match int64? negative n with
  | some v => some v
  | none => if !signed ∧ n < 18446744073709551616 then some (.int .uint64 n) else none

/-- A signed number behind a base mark, as in `0b-1`. -/
def markedInteger? (base : Nat) (outer : Bool) (cs : List Char) : Option Value :=
  let (signed, negative, digits) := splitSign cs
  if outer ∧ signed then none
  else (naturalIn base digits).bind fun n => integerOf (signed || outer) (negative || outer) n

/-- An integer whose sign stands behind its base mark. -/
def lateSign? (cs : List Char) : Option Value :=
  match cs with
  | '0' :: 'b' :: rest => markedInteger? 2 false rest
  | '-' :: '0' :: 'b' :: rest => markedInteger? 2 true rest
  | '0' :: 'o' :: rest => markedInteger? 8 false rest
  | '-' :: '0' :: 'o' :: rest => markedInteger? 8 true rest
  | _ => none

def integer? (cs : List Char) : Option Value :=
  let (signed, negative, digits) := splitSign cs
  (natural? digits).bind (integerOf signed negative)

/-- Whether the rest is an exponent or nothing. -/
def endsNumber : List Char → Bool
  | [] => true
  | c :: cs =>
    let (_, _, ds) := splitSign cs
    (c = 'e' || c = 'E') && !ds.isEmpty && ds.all isDigit

/-- Whether the characters are a decimal number: digits with a point before, between or behind
them, and an exponent. -/
def isDecimal (cs : List Char) : Bool :=
  let (_, _, cs) := splitSign cs
  let whole := cs.takeWhile isDigit
  match cs.drop whole.length with
  | '.' :: rest =>
    let fraction := rest.takeWhile isDigit
    !(whole.isEmpty && fraction.isEmpty) && endsNumber (rest.drop fraction.length)
  | rest => !whole.isEmpty && endsNumber rest

/-- The double of a decimal number; none when it is too large. -/
def double? (cs : List Char) : Option Value :=
  if isDecimal cs then
    let (negative, digits, exponent) := Value.readDecimal cs
    let x := Binary.ofDecimal .double negative digits exponent
    if x.isFinite then some (.float x) else none
  else none

/-- Whether every underscore stands between two digits. -/
def separates : Bool → List Char → Bool
  | _, [] => true
  | before, '_' :: cs => before && cs.head?.any isDigit && separates false cs
  | _, c :: cs => separates (isDigit c) cs

/-- The words with a meaning of their own. -/
def word? (s : String) : Option Value :=
  if s = "" ∨ s = "~" ∨ s = "null" ∨ s = "Null" ∨ s = "NULL" then some .null
  else if s = "true" ∨ s = "True" ∨ s = "TRUE" then some (.bool true)
  else if s = "false" ∨ s = "False" ∨ s = "FALSE" then some (.bool false)
  else if s = ".nan" ∨ s = ".NaN" ∨ s = ".NAN" then some (.float .nan)
  else if s = ".inf" ∨ s = ".Inf" ∨ s = ".INF" ∨ s = "+.inf" ∨ s = "+.Inf" ∨ s = "+.INF" then
    some (.float (.infinite false))
  else if s = "-.inf" ∨ s = "-.Inf" ∨ s = "-.INF" then some (.float (.infinite true))
  else none

/-- The first of two readings that is there. -/
def orElse (a b : Option Value) : Option Value :=
  match a with
  | some v => some v
  | none => b

/-- What a plain scalar stands for. -/
def value (s : String) : Value :=
  match word? s with
  | some v => v
  | none =>
    let cs := s.toList
    let bare := cs.filter (· ≠ '_')
    let found := match cs with
      | '.' :: _ => if separates false cs then double? bare else none
      | c :: _ =>
        if isDigit c ∨ c = '+' ∨ c = '-' then
          orElse ((instant? cs).map Value.time)
            (orElse (integer? bare) (orElse (double? bare) (lateSign? bare)))
        else none
      | [] => none
    found.getD (.text s)

end Courier.Yaml.Plain
