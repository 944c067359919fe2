import Courier.Json.Reader
import Courier.Proofs.Number.Shortest
import Courier.Value.Json
import Mathlib.Data.Nat.Factorization.Basic

/-! Written numbers by their parts. Both readers of numbers, the one that finds the end of a number and
the one that rounds it, do on every written number what its parts say; integers and the layouts of
floating-point numbers are such numbers. -/
namespace Courier

/-- A written number: digits, digits behind a point if there are any, and an exponent with its sign. -/
structure Numeral where
  negative : Bool
  whole : List Char
  fraction : List Char
  exponent : Option (Bool × List Char)
  whole_ne : whole ≠ []
  whole_digits : ∀ c ∈ whole, c.isDigit = true
  whole_lead : whole.head? = some '0' → whole = ['0']
  fraction_digits : ∀ c ∈ fraction, c.isDigit = true
  exponent_digits : ∀ s ds, exponent = some (s, ds) → ds ≠ [] ∧ ∀ c ∈ ds, c.isDigit = true

namespace Numeral

variable (n : Numeral)

/-- A minus in front of a negative number. -/
def minus (negative : Bool) : List Char := if negative then ['-'] else []

def fractionChars : List Char := if n.fraction = [] then [] else '.' :: n.fraction

def exponentChars : List Char :=
  match n.exponent with
  | none => []
  | some (s, ds) => 'e' :: (if s then '-' else '+') :: ds

def chars : List Char := minus n.negative ++ (n.whole ++ (n.fractionChars ++ n.exponentChars))

/-- All digits in front of the exponent, as one number. -/
def digits : ℕ := Nat.ofDigitChars 10 (n.whole ++ n.fraction) 0

/-- The power of ten that belongs to these digits. -/
def power : ℤ :=
  (match n.exponent with
    | none => 0
    | some (true, ds) => -(Nat.ofDigitChars 10 ds 0 : ℤ)
    | some (false, ds) => (Nat.ofDigitChars 10 ds 0 : ℤ)) - n.fraction.length

theorem takeWhile_append_stop {α : Type} {p : α → Bool} {l rest : List α} (hl : ∀ a ∈ l, p a = true)
    (hrest : ∀ a ∈ rest.head?, p a = false) : (l ++ rest).takeWhile p = l := by
  rw [List.takeWhile_append_of_pos hl]
  cases rest with
  | nil => exact List.append_nil l
  | cons a rest =>
    rw [List.takeWhile_cons_of_neg (by simp [hrest a rfl]), List.append_nil]

theorem digitsValue_eq (ds : List Char) : Value.digitsValue ds = Nat.ofDigitChars 10 ds 0 := by
  rw [Value.digitsValue, Nat.ofDigitChars]
  congr 1
  funext k c
  rw [Nat.mul_comm]
  rfl

theorem isDigit_ne {c d : Char} (hc : c.isDigit = true) (hd : d.isDigit = false) : c ≠ d := by
  rintro rfl
  rw [hc] at hd
  cases hd

theorem sign_of_isDigit {cs : List Char} (h : ∀ c ∈ cs.head?, c.isDigit = true) :
    Literal.sign cs = (false, cs) := by
  cases cs with
  | nil => rfl
  | cons c cs =>
    have hc := h c rfl
    rw [Literal.sign]
    · rintro rest heq
      exact isDigit_ne hc rfl (List.cons.inj heq).1
    · rintro rest heq
      exact isDigit_ne hc rfl (List.cons.inj heq).1

theorem isDigit_head (rest : List Char) : ∀ c ∈ (n.whole ++ rest).head?, c.isDigit = true := by
  obtain ⟨c, w, hw⟩ := List.exists_cons_of_ne_nil n.whole_ne
  intro d hd
  rw [hw, List.cons_append, List.head?_cons, Option.mem_some_iff] at hd
  exact hd ▸ n.whole_digits c (hw ▸ List.mem_cons_self)

theorem exists_head : ∃ c cs, n.chars = c :: cs ∧ (c = '-' ∨ c.isDigit = true) := by
  rw [chars]
  cases n.negative with
  | true => exact ⟨'-', _, rfl, .inl rfl⟩
  | false =>
    obtain ⟨c, w, hw⟩ := List.exists_cons_of_ne_nil n.whole_ne
    rw [hw]
    exact ⟨c, _, rfl, .inr (n.whole_digits c (hw ▸ List.mem_cons_self))⟩

theorem sign_chars :
    Literal.sign n.chars = (n.negative, n.whole ++ (n.fractionChars ++ n.exponentChars)) := by
  rw [chars]
  cases n.negative with
  | true => rfl
  | false => exact sign_of_isDigit (n.isDigit_head _)

theorem fractionChars_cases :
    n.fraction = [] ∧ n.fractionChars = [] ∨ n.fraction ≠ [] ∧ n.fractionChars = '.' :: n.fraction := by
  rw [fractionChars]
  split_ifs with h
  · exact .inl ⟨h, rfl⟩
  · exact .inr ⟨h, rfl⟩

theorem exponentChars_cases : n.exponentChars = [] ∨ ∃ (s : Bool) (ds : List Char), ds ≠ [] ∧
    (∀ c ∈ ds, c.isDigit = true) ∧ n.exponentChars = 'e' :: (if s then '-' else '+') :: ds := by
  rw [exponentChars]
  cases h : n.exponent with
  | none => exact .inl rfl
  | some x =>
    obtain ⟨hne, hdigits⟩ := n.exponent_digits x.1 x.2 h
    exact .inr ⟨x.1, x.2, hne, hdigits, rfl⟩

theorem drop_fractionChars : n.fractionChars.drop 1 = n.fraction := by
  rcases n.fractionChars_cases with ⟨h, h'⟩ | ⟨-, h'⟩
  · rw [h', h]
    rfl
  · rw [h']
    rfl

theorem isDigit_or_point {c : Char} (hc : c ∈ n.whole ++ n.fractionChars) :
    c.isDigit = true ∨ c = '.' := by
  rcases List.mem_append.mp hc with h | h
  · exact .inl (n.whole_digits c h)
  · rcases n.fractionChars_cases with ⟨-, h'⟩ | ⟨-, h'⟩
    · rw [h'] at h
      cases h
    · rw [h'] at h
      rcases List.mem_cons.mp h with rfl | h
      · exact .inr rfl
      · exact .inl (n.fraction_digits c h)

theorem takeWhile_ne_point : (n.whole ++ n.fractionChars).takeWhile (· ≠ '.') = n.whole := by
  apply takeWhile_append_stop
  · intro c hc
    exact decide_eq_true (isDigit_ne (n.whole_digits c hc) rfl)
  · intro c hc
    rcases n.fractionChars_cases with ⟨-, h⟩ | ⟨-, h⟩
    · rw [h] at hc
      cases hc
    · rw [h, List.head?_cons, Option.mem_some_iff] at hc
      simp [← hc]

/-- The sign and the digits of the exponent, behind its mark. -/
theorem sign_exponentChars :
    (if (Literal.sign (n.exponentChars.drop 1)).1
      then -(Value.digitsValue (Literal.sign (n.exponentChars.drop 1)).2 : ℤ)
      else (Value.digitsValue (Literal.sign (n.exponentChars.drop 1)).2 : ℤ)) - n.fraction.length =
      n.power := by
  rw [power, exponentChars]
  rcases n.exponent with _ | ⟨_ | _, ds⟩
  · rfl
  · simp [Literal.sign, digitsValue_eq]
  · simp [Literal.sign, digitsValue_eq]

theorem readDecimal_chars : Value.readDecimal n.chars = (n.negative, n.digits, n.power) := by
  have hmark : ∀ c ∈ n.whole ++ n.fractionChars, (c ≠ 'e' && c ≠ 'E') = true := by
    intro c hc
    rcases n.isDigit_or_point hc with h | rfl
    · simp [isDigit_ne h (d := 'e') rfl, isDigit_ne h (d := 'E') rfl]
    · rfl
  have hstop : ∀ c ∈ n.exponentChars.head?, (c ≠ 'e' && c ≠ 'E') = false := by
    intro c hc
    rcases n.exponentChars_cases with h | ⟨s, ds, -, -, h⟩
    · rw [h] at hc
      cases hc
    · rw [h, List.head?_cons, Option.mem_some_iff] at hc
      simp [← hc]
  rw [Value.readDecimal, sign_chars]
  simp only [← List.append_assoc, takeWhile_append_stop hmark hstop, takeWhile_ne_point, List.drop_left,
    drop_fractionChars, List.drop_length_add_append, digitsValue_eq]
  rw [← sign_exponentChars]
  simp only [digitsValue_eq]
  rfl

/-- What may stand behind a number: nothing that would carry it on. -/
def Ends (rest : List Char) : Prop :=
  ∀ c ∈ rest.head?, c.isDigit = false ∧ c ≠ '.' ∧ c ≠ 'e' ∧ c ≠ 'E'

theorem readMinus_chars (rest : List Char) :
    Json.readMinus (n.chars ++ rest) =
      (minus n.negative, n.whole ++ (n.fractionChars ++ (n.exponentChars ++ rest))) := by
  simp only [chars, List.append_assoc]
  cases n.negative with
  | true => rfl
  | false =>
    have hhead := n.isDigit_head (n.fractionChars ++ (n.exponentChars ++ rest))
    rw [minus, if_neg Bool.false_ne_true, List.nil_append, Json.readMinus]
    intro cs heq
    rw [heq] at hhead
    exact absurd (hhead _ rfl) (by decide)

/-- Nothing behind a number carries its digits on. -/
theorem head_not_isDigit {rest : List Char} (hrest : Ends rest) :
    ∀ c ∈ (n.exponentChars ++ rest).head?, c.isDigit = false := by
  intro c hc
  rcases n.exponentChars_cases with h | ⟨s, ds, -, -, h⟩
  · rw [h, List.nil_append] at hc
    exact (hrest c hc).1
  · rw [h, List.cons_append, List.head?_cons, Option.mem_some_iff] at hc
    exact hc ▸ rfl

theorem wholeDigits_append {rest : List Char} (hrest : ∀ c ∈ rest.head?, c.isDigit = false) :
    Json.wholeDigits (n.whole ++ rest) = n.whole := by
  by_cases hzero : n.whole.head? = some '0'
  · rw [n.whole_lead hzero]
    rfl
  · rw [Json.wholeDigits]
    · exact takeWhile_append_stop n.whole_digits hrest
    · intro cs heq
      obtain ⟨c, w, hw⟩ := List.exists_cons_of_ne_nil n.whole_ne
      rw [hw] at heq hzero
      exact hzero (congrArg some (List.cons.inj heq).1)

theorem readFraction_append {rest : List Char} (hrest : Ends rest) :
    Json.readFraction (n.fractionChars ++ (n.exponentChars ++ rest)) =
      some (n.fractionChars, n.exponentChars ++ rest) := by
  rcases n.fractionChars_cases with ⟨-, h⟩ | ⟨hne, h⟩
  · rw [h, List.nil_append, Json.readFraction]
    intro cs heq
    -- What follows starts with an exponent, or it is not part of the number.
    rcases n.exponentChars_cases with he | ⟨s, ds, -, -, he⟩
    · rw [he, List.nil_append] at heq
      exact (hrest '.' (by rw [heq]; rfl)).2.1 rfl
    · rw [he] at heq
      exact absurd (List.cons.inj heq).1 (by decide)
  · have htake : (n.fraction ++ (n.exponentChars ++ rest)).takeWhile Json.isDigit = n.fraction :=
      takeWhile_append_stop n.fraction_digits (n.head_not_isDigit hrest)
    rw [h, List.cons_append, Json.readFraction]
    simp only [htake, List.drop_left]
    rw [if_neg (by simpa using hne)]

theorem readExponent_append {rest : List Char} (hrest : Ends rest) :
    Json.readExponent (n.exponentChars ++ rest) = some (n.exponentChars, rest) := by
  rcases n.exponentChars_cases with h | ⟨s, ds, hne, hdigits, h⟩
  · rw [h, List.nil_append]
    cases rest with
    | nil => rfl
    | cons c rest =>
      obtain ⟨-, -, he, hE⟩ := hrest c rfl
      rw [Json.readExponent, if_neg (by simp [he, hE])]
  · have htake : (ds ++ rest).takeWhile Json.isDigit = ds :=
      takeWhile_append_stop hdigits fun c hc => (hrest c hc).1
    have hsign : Json.readSign ((if s then '-' else '+') :: (ds ++ rest)) =
        ([if s then '-' else '+'], ds ++ rest) := by
      cases s <;> rfl
    rw [h, List.cons_append, List.cons_append, Json.readExponent, if_pos (.inl rfl), hsign]
    simp only [htake, List.drop_left, List.isEmpty_iff, hne, if_false, List.singleton_append]

theorem readNumber_chars {rest : List Char} (hrest : Ends rest) :
    Json.readNumber (n.chars ++ rest) = some (String.ofList n.chars, rest) := by
  have hwhole : Json.wholeDigits (n.whole ++ (n.fractionChars ++ (n.exponentChars ++ rest))) =
      n.whole := by
    apply n.wholeDigits_append
    rcases n.fractionChars_cases with ⟨-, h⟩ | ⟨-, h⟩
    · rw [h, List.nil_append]
      exact n.head_not_isDigit hrest
    · rw [h]
      intro c hc
      rw [List.cons_append, List.head?_cons, Option.mem_some_iff] at hc
      exact hc ▸ rfl
  rw [Json.readNumber, readMinus_chars]
  simp only [hwhole, List.isEmpty_iff, n.whole_ne, if_false, List.drop_left, n.readFraction_append hrest,
    Option.bind_eq_bind, Option.bind_some, n.readExponent_append hrest, chars, List.append_assoc]

theorem eq_zero_of_head_toDigits (k : ℕ) (h : (Nat.toDigits 10 k).head? = some '0') : k = 0 := by
  induction k using Nat.strong_induction_on with
  | _ k ih =>
    by_cases hk : k < 10
    · rw [Nat.toDigits_of_lt_base hk] at h
      exact (by decide : ∀ d < 10, d.digitChar = '0' → d = 0) k hk (Option.some.inj h)
    · rw [Nat.toDigits_of_base_le (by decide) (by omega), List.head?_append,
        List.head?_eq_some_head Nat.toDigits_ne_nil] at h
      have hten := ih (k / 10) (by omega) (by rw [List.head?_eq_some_head Nat.toDigits_ne_nil]; exact h)
      omega

theorem isDigit_toDigits (k : ℕ) : ∀ c ∈ Nat.toDigits 10 k, c.isDigit = true :=
  fun _ hc => Nat.isDigit_of_mem_toDigits (by decide) (by decide) hc

/-- An integer as it is written. -/
def ofInt (i : ℤ) : Numeral where
  negative := decide (i < 0)
  whole := Nat.toDigits 10 i.natAbs
  fraction := []
  exponent := none
  whole_ne := Nat.toDigits_ne_nil
  whole_digits := isDigit_toDigits _
  whole_lead h := by rw [eq_zero_of_head_toDigits _ h, Nat.toDigits_zero]
  fraction_digits := nofun
  exponent_digits := nofun

theorem chars_ofInt (i : ℤ) : (ofInt i).chars = (toString i).toList := by
  have hnat (k : ℕ) : (toString k).toList = Nat.toDigits 10 k := Nat.toList_repr
  cases i with
  | ofNat k =>
    change [] ++ (Nat.toDigits 10 k ++ []) = (toString k).toList
    rw [hnat, List.nil_append, List.append_nil]
  | negSucc k =>
    have hneg : decide (Int.negSucc k < 0) = true := decide_eq_true (Int.negSucc_lt_zero k)
    change (if decide (Int.negSucc k < 0) then ['-'] else []) ++ (Nat.toDigits 10 (k + 1) ++ []) =
      ("-" ++ toString (k + 1)).toList
    rw [hneg, String.toList_append, hnat, List.append_nil]
    rfl

theorem toString_eq (i : ℤ) : toString i = String.ofList (ofInt i).chars := by
  rw [chars_ofInt, String.ofList_toList]

theorem digits_ofInt (i : ℤ) : (ofInt i).digits = i.natAbs := by
  change Nat.ofDigitChars 10 (Nat.toDigits 10 i.natAbs ++ []) 0 = _
  rw [List.append_nil, Nat.ofDigitChars_ten_toDigits]

theorem minus_injective {a b : Bool} (h : minus a = minus b) : a = b := by
  revert h
  cases a <;> cases b <;> decide

theorem isDigit_or_minus {i : ℤ} {c : Char} (hc : c ∈ (toString i).toList) :
    c.isDigit = true ∨ c = '-' := by
  rw [← chars_ofInt] at hc
  change c ∈ minus (decide (i < 0)) ++ (Nat.toDigits 10 i.natAbs ++ []) at hc
  rw [List.append_nil] at hc
  rcases List.mem_append.mp hc with hc | hc
  · rw [minus] at hc
    split_ifs at hc
    · exact .inr (List.mem_singleton.mp hc)
    · cases hc
  · exact .inl (isDigit_toDigits _ c hc)

/-- An integer is read back from its sign and its digits. -/
theorem toString_injective {i j : ℤ} (h : toString i = toString j) : i = j := by
  have hread (i : ℤ) : Json.readMinus ((toString i).toList ++ []) =
      (minus (decide (i < 0)), Nat.toDigits 10 i.natAbs ++ []) := by
    rw [← chars_ofInt]
    exact (ofInt i).readMinus_chars []
  have heq := hread i
  rw [h, hread j, List.append_nil, List.append_nil] at heq
  obtain ⟨hminus, hdigits⟩ := Prod.mk.inj heq
  have habs : j.natAbs = i.natAbs := by
    have hvalue := congrArg (Nat.ofDigitChars 10 · 0) hdigits
    simpa only [Nat.ofDigitChars_ten_toDigits] using hvalue
  have hsign : j < 0 ↔ i < 0 := decide_eq_decide.mp (minus_injective hminus)
  omega

variable (l : Decimal.Layout) (d : Decimal) (negative : Bool)

theorem isDigit_zeros (k : ℕ) : ∀ c ∈ List.replicate k '0', c.isDigit = true :=
  fun _ hc => (List.eq_of_mem_replicate hc) ▸ rfl

theorem isDigit_append {ds es : List Char} (hds : ∀ c ∈ ds, c.isDigit = true)
    (hes : ∀ c ∈ es, c.isDigit = true) : ∀ c ∈ ds ++ es, c.isDigit = true :=
  fun c hc => (List.mem_append.mp hc).elim (hds c) (hes c)

/-- A decimal smaller than one, with zeros behind the point. -/
theorem exists_numeral_small {D k : ℕ} :
    ∃ n : Numeral, n.negative = negative ∧
      n.chars = minus negative ++
        '0' :: '.' :: (List.replicate k '0' ++ Nat.toDigits 10 D) ∧
      n.digits = D ∧ n.power = -(k + (Nat.toDigits 10 D).length : ℕ) := by
  have hne : List.replicate k '0' ++ Nat.toDigits 10 D ≠ [] := by
    simp [Nat.toDigits_ne_nil]
  refine ⟨⟨negative, ['0'], List.replicate k '0' ++ Nat.toDigits 10 D, none, by simp, List.forall_mem_singleton.mpr rfl,
    fun _ => rfl, isDigit_append (isDigit_zeros k) (isDigit_toDigits D), nofun⟩, rfl, ?_, ?_, ?_⟩
  · simp [chars, fractionChars, exponentChars, Nat.toDigits_ne_nil]
  · simp [digits, Nat.ofDigitChars_append, Nat.ofDigitChars_cons]
  · simp [power]

/-- A decimal without digits behind the point. -/
theorem exists_numeral_large {D k : ℕ} (hD : D ≠ 0) :
    ∃ n : Numeral, n.negative = negative ∧
      n.chars = minus negative ++ (Nat.toDigits 10 D ++ List.replicate k '0') ∧
      n.digits = 10 ^ k * D ∧ n.power = 0 := by
  refine ⟨⟨negative, Nat.toDigits 10 D ++ List.replicate k '0', [], none, by simp [Nat.toDigits_ne_nil],
    isDigit_append (isDigit_toDigits D) (isDigit_zeros k), ?_, nofun, nofun⟩, rfl, ?_, ?_, ?_⟩
  · intro h
    rw [List.head?_append, List.head?_eq_some_head Nat.toDigits_ne_nil, Option.some_or,
      ← List.head?_eq_some_head Nat.toDigits_ne_nil] at h
    exact absurd (eq_zero_of_head_toDigits D h) hD
  · simp [chars, fractionChars, exponentChars]
  · simp [digits, Nat.ofDigitChars_append]
  · simp [power]

/-- A decimal with the point behind its digit number `k`, and any exponent. -/
theorem exists_numeral_split {D k : ℕ} (hD : D ≠ 0) (hk : 0 < k)
    (exponent : Option (Bool × List Char))
    (hexponent : ∀ s ds, exponent = some (s, ds) → ds ≠ [] ∧ ∀ c ∈ ds, c.isDigit = true) :
    ∃ n : Numeral, n.negative = negative ∧ n.exponent = exponent ∧
      n.whole = (Nat.toDigits 10 D).take k ∧ n.fraction = (Nat.toDigits 10 D).drop k ∧ n.digits = D := by
  refine ⟨⟨negative, (Nat.toDigits 10 D).take k, (Nat.toDigits 10 D).drop k, exponent, ?_, ?_, ?_, ?_,
    hexponent⟩, rfl, rfl, rfl, rfl, ?_⟩
  · simp [Nat.toDigits_ne_nil, hk.ne']
  · exact fun c hc => isDigit_toDigits D c (List.mem_of_mem_take hc)
  · intro h
    rw [List.head?_take, if_neg hk.ne'] at h
    exact absurd (eq_zero_of_head_toDigits D h) hD
  · exact fun c hc => isDigit_toDigits D c (List.mem_of_mem_drop hc)
  · rw [digits, List.take_append_drop, Nat.ofDigitChars_ten_toDigits]

theorem exists_numeral_positional {D : ℕ} {E : ℤ} (hD : D ≠ 0) : ∃ n : Numeral,
    n.negative = negative ∧
    n.chars = minus negative ++
      Decimal.positional (Nat.toDigits 10 D) ((Nat.toDigits 10 D).length + E) ∧
    (n.digits * 10 ^ n.power : ℚ) = D * 10 ^ E := by
  rw [Decimal.positional]
  split_ifs with hsmall hlarge
  · obtain ⟨n, hneg, hchars, hdigits, hpower⟩ := exists_numeral_small negative (D := D)
      (k := (-((Nat.toDigits 10 D).length + E)).toNat)
    refine ⟨n, hneg, hchars, ?_⟩
    rw [hdigits, hpower]
    congr 2
    omega
  · obtain ⟨n, hneg, hchars, hdigits, hpower⟩ := exists_numeral_large negative hD
      (k := ((Nat.toDigits 10 D).length + E).toNat - (Nat.toDigits 10 D).length)
    have hE : E = (((Nat.toDigits 10 D).length + E).toNat - (Nat.toDigits 10 D).length : ℕ) := by omega
    generalize ((Nat.toDigits 10 D).length + E).toNat - (Nat.toDigits 10 D).length = k at *
    refine ⟨n, hneg, hchars, ?_⟩
    rw [hdigits, hpower, zpow_zero, mul_one, hE, zpow_natCast, mul_comm]
    push_cast
    rfl
  · obtain ⟨n, hneg, hexponent, hwhole, hfraction, hdigits⟩ := exists_numeral_split negative hD
      (k := ((Nat.toDigits 10 D).length + E).toNat) (by omega) none nofun
    have hlength : (n.fraction.length : ℤ) = -E := by
      rw [hfraction, List.length_drop]
      omega
    have hne : n.fraction ≠ [] := by
      intro h
      rw [h, List.length_nil] at hlength
      omega
    refine ⟨n, hneg, ?_, ?_⟩
    · rw [chars, hneg, fractionChars, if_neg hne, exponentChars, hexponent, hwhole,
        hfraction, List.append_nil]
    · rw [hdigits, power, hexponent]
      congr 2
      exact (Int.zero_sub _).trans (by omega)

theorem exists_numeral_exponential {D width : ℕ} {E : ℤ} (hD : D ≠ 0) : ∃ n : Numeral,
    n.negative = negative ∧
    n.chars = minus negative ++
      Decimal.exponential width (Nat.toDigits 10 D) ((Nat.toDigits 10 D).length + E - 1) ∧
    (n.digits * 10 ^ n.power : ℚ) = D * 10 ^ E := by
  have hpos : 0 < (Nat.toDigits 10 D).length := Nat.length_toDigits_pos
  let place : ℤ := (Nat.toDigits 10 D).length + E - 1
  let es := Nat.toDigits 10 place.natAbs
  let padded := List.replicate (width - es.length) '0' ++ es
  obtain ⟨n, hneg, hexponent, hwhole, hfraction, hdigits⟩ := exists_numeral_split negative hD
    (k := 1) (by decide) (some (decide (place < 0), padded)) (by
      rintro s ds h
      obtain ⟨-, rfl⟩ := Prod.mk.inj (Option.some.inj h)
      exact ⟨by simp [padded, es, Nat.toDigits_ne_nil],
        isDigit_append (isDigit_zeros _) (isDigit_toDigits _)⟩)
  have hlength : (n.fraction.length : ℤ) = (Nat.toDigits 10 D).length - 1 := by
    rw [hfraction, List.length_drop]
    omega
  have hempty : n.fraction = [] ↔ (Nat.toDigits 10 D).length ≤ 1 := by
    rw [← List.length_eq_zero_iff]
    omega
  have hvalue : Nat.ofDigitChars 10 padded 0 = place.natAbs := by
    simp [padded, es, Nat.ofDigitChars_append]
  refine ⟨n, hneg, ?_, ?_⟩
  · rw [chars, hneg, fractionChars, if_congr hempty rfl rfl, exponentChars, hexponent,
      hwhole, hfraction, Decimal.exponential]
    simp only [List.append_assoc, decide_eq_true_eq]
    rfl
  · rw [hdigits, power, hexponent, hlength]
    congr 2
    by_cases hsign : place < 0
    · rw [decide_eq_true hsign]
      simp only [hvalue]
      omega
    · rw [decide_eq_false hsign]
      simp only [hvalue]
      omega

/-- A decimal in any layout is a written number with the decimal's value. -/
theorem exists_numeral_write : ∃ n : Numeral, n.negative = negative ∧
      n.chars = minus negative ++ d.write l ∧
      (n.digits * 10 ^ n.power : ℚ) = d.value := by
  simp only [Decimal.write, Decimal.value]
  split_ifs with hD
  · refine ⟨⟨negative, ['0'], [], none, by simp, List.forall_mem_singleton.mpr rfl, fun _ => rfl, nofun, nofun⟩, rfl, rfl, ?_⟩
    rw [hD]
    norm_num [digits, Nat.ofDigitChars_cons]
  · exact exists_numeral_positional negative hD
  · exact exists_numeral_exponential negative hD

end Numeral

namespace Binary

/-- A number as a format holds it: zero, or one in its one representation. -/
def InFormat (f : Format) : Binary → Prop
  | .finite _ m e => m = 0 ∧ e = 0 ∨ Fits f m e
  | _ => True

/-- A mantissa that a format has room for, or the one next to the largest of these. -/
theorem inFormat_ofDyadic {f : Format} {e : ℤ} (negative : Bool) {m : ℕ} (hprecision : 0 < f.precision)
    (hm : m ≤ 2 ^ f.precision) (hlow : f.minExponent ≤ e)
    (hhigh : e < f.maxExponent ∨ e = f.maxExponent ∧ m ≠ 2 ^ f.precision) :
    InFormat f (ofDyadic negative m e) := by
  by_cases hzero : m = 0
  · rw [ofDyadic, if_pos hzero]
    exact .inl ⟨rfl, rfl⟩
  obtain ⟨k, o, hodd, rfl⟩ := Nat.exists_eq_two_pow_mul_odd hzero
  rw [Nat.mul_comm] at hm hhigh ⊢
  rw [ofDyadic_mul_pow (Nat.odd_iff.mp hodd)]
  have hpow : 2 ^ (o.log2 + k) ≤ o * 2 ^ k := by
    rw [Nat.pow_add]
    exact Nat.mul_le_mul_right _ (Nat.log2_self_le hodd.pos.ne')
  have hlog : o.log2 + k ≤ f.precision := (Nat.pow_le_pow_iff_right (by decide)).mp (hpow.trans hm)
  refine .inr ⟨Nat.odd_iff.mp hodd, ?_, by omega, ?_⟩
  · have hle : o ≤ 2 ^ f.precision := (Nat.le_mul_of_pos_right o (by positivity)).trans hm
    refine lt_of_le_of_ne hle fun heq => ?_
    -- an odd number is no power of two
    rw [heq] at hodd
    exact absurd hodd (by simp [Nat.not_odd_iff_even, hprecision.ne', Nat.even_pow])
  · rcases hhigh with hlt | ⟨rfl, hne⟩
    · omega
    · have hlt : o.log2 + k < f.precision :=
        (Nat.pow_lt_pow_iff_right (by decide)).mp (hpow.trans_lt (lt_of_le_of_ne hm hne))
      omega

/-- Rounding a ratio to a format ends in the format. -/
theorem inFormat_ofRatio {f : Format} {num den : ℕ} (hprecision : 0 < f.precision) (negative : Bool) (hden : den ≠ 0) :
    InFormat f (ofRatio f negative num den) := by
  rw [ofRatio]
  split_ifs with hnum
  · exact .inl ⟨rfl, rfl⟩
  set e := larger (leadingExponent f num den) f.minExponent with he
  have hleading : leadingExponent f num den ≤ e := by
    rw [he, larger]
    split_ifs <;> omega
  have hlow : f.minExponent ≤ e := by
    rw [he, larger]
    split_ifs <;> omega
  have hpos : 0 < (scaled num den e).2 := scaled_pos (Nat.pos_of_ne_zero hden)
  have hbound : (scaled num den e).1 < 2 ^ f.precision * (scaled num den e).2 := by
    have hposq : (0 : ℚ) < (scaled num den e).2 := by exact_mod_cast hpos
    have hratio : ((scaled num den e).1 / (scaled num den e).2 : ℚ) < 2 ^ (f.precision : ℤ) := by
      rw [scaled_div, div_lt_iff₀ (zpow_two_pos e), ← zpow_add₀ (by norm_num)]
      refine (leadingExponent_bounds (f := f) hnum hden).2.trans_le ?_
      exact zpow_le_zpow_right₀ (by norm_num) (by omega)
    rw [div_lt_iff₀ hposq, zpow_natCast] at hratio
    exact_mod_cast hratio
  dsimp only
  split_ifs with hover
  · trivial
  · push Not at hover
    refine inFormat_ofDyadic negative hprecision (roundHalfEven_le hbound) hlow ?_
    rcases hover.1.lt_or_eq with hlt | heq
    · exact .inl hlt
    · exact .inr ⟨heq, hover.2 heq⟩

theorem inFormat_ofDecimal {f : Format} (hprecision : 0 < f.precision) (negative : Bool) (digits : ℕ) (exponent : ℤ) :
    InFormat f (ofDecimal f negative digits exponent) := by
  rw [ofDecimal]
  split_ifs
  · exact .inl ⟨rfl, rfl⟩
  · trivial
  · exact inFormat_ofRatio hprecision negative (by decide)
  · exact inFormat_ofRatio hprecision negative (Nat.pow_pos (by decide)).ne'

/-- Every text is read as a double. -/
theorem inFormat_doubleOfText (s : String) : InFormat .double (Value.doubleOfText s) :=
  inFormat_ofDecimal (by decide) _ _ _

theorem doubleOfText_chars (n : Numeral) :
    Value.doubleOfText (String.ofList n.chars) = ofDecimal .double n.negative n.digits n.power := by
  rw [Value.doubleOfText, String.toList_ofList, n.readDecimal_chars]

theorem ofDecimal_zero (f : Format) (negative : Bool) (E : ℤ) :
    ofDecimal f negative 0 E = .finite negative 0 0 := by
  rw [ofDecimal, if_pos (.inl rfl)]

/-- The text of a finite number is a written number with the value of its shortest decimal. -/
theorem exists_numeral_text (f : Format) (l : Decimal.Layout) (negative : Bool) (m : ℕ) (e : ℤ) :
    ∃ n : Numeral, n.negative = negative ∧
      (Binary.finite negative m e).text f l = String.ofList n.chars ∧
      (n.digits * 10 ^ n.power : ℚ) = (Decimal.shortest f m e).value := by
  obtain ⟨n, hneg, hchars, hvalue⟩ := Numeral.exists_numeral_write l (Decimal.shortest f m e) negative
  exact ⟨n, hneg, by rw [hchars]; rfl, hvalue⟩

/-- A double reads back from its shortest decimal. -/
theorem doubleOfText_text {negative : Bool} {m : ℕ} {e : ℤ} (l : Decimal.Layout)
    (h : InFormat .double (.finite negative m e)) :
    Value.doubleOfText ((Binary.finite negative m e).text .double l) = .finite negative m e := by
  obtain ⟨n, rfl, htext, hvalue⟩ := exists_numeral_text .double l negative m e
  rw [htext, doubleOfText_chars]
  rcases h with ⟨rfl, rfl⟩ | h
  · have hzero : n.digits = 0 := by
      have hten : (10 : ℚ) ^ n.power ≠ 0 := (zpow_pos (by norm_num) _).ne'
      have hmul : (n.digits * 10 ^ n.power : ℚ) = 0 := by
        rw [hvalue]
        norm_num [Decimal.shortest, Decimal.value]
      exact_mod_cast (mul_eq_zero.mp hmul).resolve_right hten
    rw [hzero, ofDecimal_zero]
  · apply ofDecimal_of_contains h
    rw [hvalue]
    exact Decimal.contains_shortest h (by decide)

/-- A decimal in the interval of a single is far below the largest double. -/
theorem lt_of_contains_single {m : ℕ} {e : ℤ} {x : ℚ} (h : Fits .single m e)
    (hx : (Decimal.Interval.of .single m e).Contains x) : x < 2 ^ (1023 : ℤ) := by
  have hunit := zpow_two_pos (unit .single m e)
  have hfull : (full .single m e : ℚ) + 1 ≤ 2 ^ 24 := by exact_mod_cast h.full_lt
  have hy : x / 2 ^ unit .single m e < 2 ^ 24 := by
    have hx' := (Decimal.Interval.contains_of_iff h rfl).mp hx
    generalize x / 2 ^ unit .single m e = y at *
    split_ifs at hx'
    · linarith
    · linarith
  calc x < 2 ^ 24 * 2 ^ unit .single m e := (div_lt_iff₀ hunit).mp hy
    _ = 2 ^ (24 + unit .single m e) := by
        rw [zpow_add₀ (by norm_num)]
        rfl
    _ ≤ 2 ^ (1023 : ℤ) := by
        apply zpow_le_zpow_right₀ (by norm_num)
        have := h.unit_le_maxExponent (by decide)
        change unit .single m e ≤ 104 at this
        omega

theorem isFinite_doubleOfText_single {negative : Bool} {m : ℕ} {e : ℤ} (l : Decimal.Layout)
    (h : InFormat .single (.finite negative m e)) :
    (Value.doubleOfText ((Binary.finite negative m e).text .single l)).isFinite = true := by
  obtain ⟨n, rfl, htext, hvalue⟩ := exists_numeral_text .single l negative m e
  rw [htext, doubleOfText_chars]
  apply ofDecimal_isFinite
  rw [hvalue]
  rcases h with ⟨rfl, rfl⟩ | h
  · norm_num [Decimal.shortest, Decimal.value]
  · exact lt_of_contains_single h (Decimal.contains_shortest h (by decide))

theorem doubleOfText_toString {i : ℤ} (h : i.natAbs < 2 ^ 64) :
    Value.doubleOfText (toString i) = ofInt .double i := by
  have hpower : (Numeral.ofInt i).power = 0 := rfl
  have hlength : (Nat.toDigits 10 i.natAbs).length ≤ 20 := by
    rw [Nat.length_toDigits_le_iff (by decide) (by decide)]
    exact h.trans (by decide)
  rw [Numeral.toString_eq, doubleOfText_chars, Numeral.digits_ofInt, hpower, ofInt]
  by_cases hi : i.natAbs = 0
  · rw [hi, ofDecimal_zero, ofRatio, if_pos rfl]
    rfl
  · rw [ofDecimal, if_neg (by omega), if_neg (by omega), if_pos le_rfl]
    change ofRatio .double (decide (i < 0)) (i.natAbs * 1) 1 = _
    rw [Nat.mul_one]

theorem isFinite_ofInt {i : ℤ} (h : i.natAbs < 2 ^ 64) : (ofInt .double i).isFinite = true := by
  apply ofRatio_isFinite (by decide) _ (by decide)
  calc ((i.natAbs : ℚ) / (1 : ℕ)) = i.natAbs := by norm_num
    _ < 2 ^ 64 := by exact_mod_cast h
    _ = 2 ^ (64 : ℤ) := rfl
    _ ≤ _ := zpow_le_zpow_right₀ (by norm_num) (by decide)

end Binary
end Courier
