/-!
Instants with the zone they are shown in, and their two written forms: the compact one of interchange
formats and the spaced one of messages.
-/

namespace Courier

/-- Where an instant is shown: at the meridian, or at a fixed offset in seconds. -/
inductive Zone
  | utc
  | fixed (offset : Int)
  deriving DecidableEq

def Zone.offset : Zone → Int
  | .utc => 0
  | .fixed o => o

/-- An offset of less than a day, which two digits for the hours can tell. -/
def Zone.isWithinDay (z : Zone) : Bool := z.offset.natAbs < 86400

/-- Seconds since the start of 1970, and nanoseconds within the second. -/
structure Instant where
  seconds : Int
  nanos : Nat
  zone : Zone
  deriving DecidableEq

/-- A date and a time of day. -/
structure Civil where
  year : Int
  month : Nat
  day : Nat
  hour : Nat
  minute : Nat
  second : Nat

namespace Civil

def isLeap (year : Int) : Bool := year % 4 = 0 && (year % 100 ≠ 0 || year % 400 = 0)

def monthLength (year : Int) (month : Nat) : Nat :=
  if month = 2 then (if isLeap year then 29 else 28)
  else if month = 4 ∨ month = 6 ∨ month = 9 ∨ month = 11 then 30
  else 31

/-- Days from the start of 1970 to a date. Years are counted from March, in cycles of 400 years of
146097 days. -/
def dayNumber (year : Int) (month day : Nat) : Int :=
  let y := if month ≤ 2 then year - 1 else year
  let cycle := y / 400
  let yearOfCycle := y - cycle * 400
  let monthFromMarch : Int := if 2 < month then (month : Int) - 3 else (month : Int) + 9
  let dayOfYear := (153 * monthFromMarch + 2) / 5 + day - 1
  let dayOfCycle := yearOfCycle * 365 + yearOfCycle / 4 - yearOfCycle / 100 + dayOfYear
  cycle * 146097 + dayOfCycle - 719468

/-- The date of a day number. -/
def ofDayNumber (n : Int) : Int × Nat × Nat :=
  let z := n + 719468
  let cycle := z / 146097
  let dayOfCycle := z - cycle * 146097
  let yearOfCycle :=
    (dayOfCycle - dayOfCycle / 1460 + dayOfCycle / 36524 - dayOfCycle / 146096) / 365
  let dayOfYear := dayOfCycle - (365 * yearOfCycle + yearOfCycle / 4 - yearOfCycle / 100)
  let m := (5 * dayOfYear + 2) / 153
  let day := dayOfYear - (153 * m + 2) / 5 + 1
  let month := if m < 10 then m + 3 else m - 9
  let year := yearOfCycle + cycle * 400 + (if month ≤ 2 then 1 else 0)
  (year, month.toNat, day.toNat)

/-- A date and time that exist. -/
def isValid (c : Civil) : Bool :=
  1 ≤ c.month && c.month ≤ 12 && 1 ≤ c.day && c.day ≤ monthLength c.year c.month &&
    c.hour < 24 && c.minute < 60 && c.second < 60

end Civil

namespace Instant

/-- The start of year one. -/
def zero : Instant := ⟨-62135596800, 0, .utc⟩

def ofCivil (c : Civil) (nanos : Nat) (zone : Zone) : Instant :=
  let days := Civil.dayNumber c.year c.month c.day
  ⟨days * 86400 + c.hour * 3600 + c.minute * 60 + c.second - zone.offset, nanos, zone⟩

/-- Date and time of day in the instant's zone. -/
def civil (t : Instant) : Civil :=
  let local_ := t.seconds + t.zone.offset
  let days := local_ / 86400
  let rest := (local_ - days * 86400).toNat
  let d := Civil.ofDayNumber days
  ⟨d.1, d.2.1, d.2.2, rest / 3600, rest / 60 % 60, rest % 60⟩

/-- The number with zeros in front up to a width. -/
def padded (width n : Nat) : String :=
  let ds := Nat.toDigits 10 n
  String.ofList (List.replicate (width - ds.length) '0' ++ ds)

/-- Nanoseconds as a fraction without trailing zeros, and nothing for none. -/
def fraction (nanos : Nat) : String :=
  if nanos = 0 then ""
  else
    let ds := (padded 9 nanos).toList
    "." ++ String.ofList (ds.reverse.dropWhile (· = '0')).reverse

/-- Sign, hours and minutes of an offset, with a text between the two; seconds are dropped. -/
def offsetText (between : String) (offset : Int) : String :=
  let minutes := offset.natAbs / 60
  (if offset ≤ -60 then "-" else "+") ++ padded 2 (minutes / 60) ++ between ++ padded 2 (minutes % 60)

def hasFourDigitYear (t : Instant) : Bool := 0 ≤ t.civil.year && t.civil.year ≤ 9999

/-- The form `2006-01-02T15:04:05.5Z`, with an offset such as `+02:00` in place of `Z`. -/
def text (t : Instant) : String :=
  let c := t.civil
  padded 4 c.year.toNat ++ "-" ++ padded 2 c.month ++ "-" ++ padded 2 c.day ++ "T" ++
    padded 2 c.hour ++ ":" ++ padded 2 c.minute ++ ":" ++ padded 2 c.second ++ fraction t.nanos ++
    (if t.zone.offset = 0 then "Z" else offsetText ":" t.zone.offset)

/-- The form `2006-01-02 15:04:05.5 +0000 UTC`. -/
def spacedText (t : Instant) : String :=
  let c := t.civil
  let offset := offsetText "" t.zone.offset
  padded 4 c.year.toNat ++ "-" ++ padded 2 c.month ++ "-" ++ padded 2 c.day ++ " " ++
    padded 2 c.hour ++ ":" ++ padded 2 c.minute ++ ":" ++ padded 2 c.second ++ fraction t.nanos ++
    " " ++ offset ++ " " ++ (if t.zone.offset = 0 then "UTC" else offset)

/-- The same instant shown at the meridian. -/
def toUtc (t : Instant) : Instant := { t with zone := .utc }

def digitValue (c : Char) : Option Nat :=
  if '0' ≤ c ∧ c ≤ '9' then some (c.toNat - 48) else none

/-- Reads exactly `n` digits. -/
def takeDigits : Nat → Nat → List Char → Option (Nat × List Char)
  | 0, acc, cs => some (acc, cs)
  | _ + 1, _, [] => none
  | n + 1, acc, c :: cs =>
    match digitValue c with
    | some d => takeDigits n (acc * 10 + d) cs
    | none => none

def expect (c : Char) : List Char → Option (List Char)
  | [] => none
  | d :: cs => if d = c then some cs else none

/-- A fraction of a second in nanoseconds from its digits; digits past the ninth are dropped. -/
def nanosOf (ds : List Char) : Nat :=
  ((ds ++ List.replicate 9 '0').take 9).foldl (fun n c => n * 10 + (c.toNat - 48)) 0

/-- Reads an optional fraction behind a point. -/
def readFraction : List Char → Option (Nat × List Char)
  | '.' :: cs =>
    let ds := cs.takeWhile fun c => (digitValue c).isSome
    if ds.isEmpty then none else some (nanosOf ds, cs.drop ds.length)
  | cs => some (0, cs)

/-- Reads `Z` or an offset with hours and minutes up to the end of the text. -/
def readZone : List Char → Option Zone
  | ['Z'] => some .utc
  | sign :: cs =>
    if sign = '+' ∨ sign = '-' then do
      let (h, cs) ← takeDigits 2 0 cs
      let cs ← expect ':' cs
      let (m, cs) ← takeDigits 2 0 cs
      let seconds : Int := h * 3600 + m * 60
      if cs.isEmpty ∧ h < 24 ∧ m < 60 then
        some (.fixed (if sign = '-' then -seconds else seconds))
      else none
    else none
  | [] => none

/-- Reads the form that `text` writes. -/
def ofText? (s : String) : Option Instant := do
  let (year, cs) ← takeDigits 4 0 s.toList
  let cs ← expect '-' cs
  let (month, cs) ← takeDigits 2 0 cs
  let cs ← expect '-' cs
  let (day, cs) ← takeDigits 2 0 cs
  let cs ← expect 'T' cs
  let (hour, cs) ← takeDigits 2 0 cs
  let cs ← expect ':' cs
  let (minute, cs) ← takeDigits 2 0 cs
  let cs ← expect ':' cs
  let (second, cs) ← takeDigits 2 0 cs
  let (nanos, cs) ← readFraction cs
  let zone ← readZone cs
  let c : Civil := ⟨year, month, day, hour, minute, second⟩
  if c.isValid then some (ofCivil c nanos zone) else none

end Instant
end Courier
