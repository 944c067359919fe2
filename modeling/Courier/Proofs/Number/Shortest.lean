import Courier.Number.Decimal
import Courier.Proofs.Number.Rounding
import Mathlib.Algebra.Order.Floor.Semifield
import Mathlib.Data.Rat.Floor

/-! The shortest decimal of a number rounds back to the number. The search for it looks only at decimals
inside the interval of a number, everything in that interval rounds to the number, and twenty digits are
always enough to get into it. -/
namespace Courier

namespace Binary

variable {f : Format} {m : ℕ} {e : ℤ}

/-- A number other than zero that a format holds, in its one representation. -/
structure Fits (f : Format) (m : ℕ) (e : ℤ) : Prop where
  odd : m % 2 = 1
  small : m < 2 ^ f.precision
  low : f.minExponent ≤ e
  high : m.log2 + e < f.maxExponent + f.precision

/-- How far the mantissa moves to the left in its format. -/
def shift (f : Format) (m : ℕ) (e : ℤ) : ℤ :=
  smaller ((f.precision : ℤ) - 1 - m.log2) (e - f.minExponent)

/-- The mantissa with all the bits its format gives it. -/
def full (f : Format) (m : ℕ) (e : ℤ) : ℕ := m * 2 ^ (shift f m e).toNat

/-- The exponent of the last of these bits. -/
def unit (f : Format) (m : ℕ) (e : ℤ) : ℤ := e - shift f m e

theorem minExponent_le_unit : f.minExponent ≤ unit f m e := by
  rw [unit, shift, smaller]
  split_ifs <;> omega

namespace Fits

variable (h : Fits f m e)
include h

theorem ne_zero : m ≠ 0 := by
  intro hm
  have := h.odd
  omega

theorem log2_lt : m.log2 < f.precision := (Nat.log2_lt h.ne_zero).mpr h.small

theorem shift_nonneg : 0 ≤ shift f m e := by
  have := h.log2_lt
  have := h.low
  rw [shift, smaller]
  split_ifs <;> omega

theorem unit_le_maxExponent (hf : f.minExponent ≤ f.maxExponent) : unit f m e ≤ f.maxExponent := by
  have := h.high
  rw [unit, shift, smaller]
  split_ifs <;> omega

theorem full_pos : 0 < full f m e := Nat.mul_pos (Nat.pos_of_ne_zero h.ne_zero) (by positivity)

theorem full_lt : full f m e < 2 ^ f.precision := by
  have hlog := h.log2_lt
  have hshift : (shift f m e).toNat + m.log2 + 1 ≤ f.precision := by
    rw [shift, smaller]
    split_ifs <;> omega
  calc full f m e < 2 ^ (m.log2 + 1) * 2 ^ (shift f m e).toNat :=
        Nat.mul_lt_mul_of_pos_right Nat.lt_log2_self (by positivity)
    _ = 2 ^ ((shift f m e).toNat + m.log2 + 1) := by
        rw [← Nat.pow_add]
        congr 1
        omega
    _ ≤ 2 ^ f.precision := Nat.pow_le_pow_right (by decide) hshift

/-- Either all bits of the mantissa are used, or the exponent is the least there is. -/
theorem le_full_or_unit_eq : 2 ^ (f.precision - 1) ≤ full f m e ∨ unit f m e = f.minExponent := by
  have hlog := h.log2_lt
  by_cases hs : (f.precision : ℤ) - 1 - m.log2 < e - f.minExponent
  · left
    have hshift : (shift f m e).toNat = f.precision - 1 - m.log2 := by
      rw [shift, smaller, if_pos hs]
      omega
    calc 2 ^ (f.precision - 1) = 2 ^ m.log2 * 2 ^ (f.precision - 1 - m.log2) := by
          rw [← Nat.pow_add]
          congr 1
          omega
      _ ≤ m * 2 ^ (f.precision - 1 - m.log2) :=
          Nat.mul_le_mul_right _ (Nat.log2_self_le h.ne_zero)
      _ = full f m e := by rw [full, hshift]
  · right
    rw [unit, shift, smaller, if_neg hs]
    omega

theorem ofDyadic_full (negative : Bool) :
    ofDyadic negative (full f m e) (unit f m e) = .finite negative m e := by
  rw [full, ofDyadic_mul_pow h.odd, unit, Int.toNat_of_nonneg h.shift_nonneg, Int.sub_add_cancel]

/-- A power of two just above the step to larger units, seen from the smaller unit. -/
theorem ofDyadic_twice (negative : Bool) :
    ofDyadic negative (2 * full f m e) (unit f m e - 1) = .finite negative m e := by
  have hfull : 2 * full f m e = m * 2 ^ ((shift f m e).toNat + 1) := by
    rw [full, Nat.pow_succ]
    ring
  have hshift := h.shift_nonneg
  rw [hfull, ofDyadic_mul_pow h.odd, unit]
  congr 1
  omega

end Fits

/-- What a ratio rounds to, once its exponent and its mantissa are known. -/
theorem ofRatio_eq_ofDyadic {num den n : ℕ} {k : ℤ} (hnum : num ≠ 0) (hden : den ≠ 0)
    (hk : larger (leadingExponent f num den) f.minExponent = k)
    (hmax : k < f.maxExponent ∨ k = f.maxExponent ∧ n ≠ 2 ^ f.precision)
    (hlow : (n : ℚ) - 1 / 2 ≤ num / den / 2 ^ k) (hhigh : (num / den / 2 ^ k : ℚ) ≤ n + 1 / 2)
    (htie : (num / den / 2 ^ k : ℚ) = n - 1 / 2 ∨ (num / den / 2 ^ k : ℚ) = n + 1 / 2 → n % 2 = 0)
    (negative : Bool) : ofRatio f negative num den = ofDyadic negative n k := by
  rw [← scaled_div] at hlow hhigh htie
  have hn := roundHalfEven_eq (scaled_pos (Nat.pos_of_ne_zero hden)) hlow hhigh htie
  have hfinite : ¬ (f.maxExponent < k ∨ k = f.maxExponent ∧ n = 2 ^ f.precision) := by
    rintro (h | ⟨h, h'⟩)
    · omega
    · exact hmax.elim (fun hlt => by omega) fun hne => hne.2 h'
  rw [ofRatio, if_neg hnum]
  simp only [hk, hn]
  exact if_neg hfinite

theorem two_zpow_add (k : ℤ) (i : ℕ) : (2 : ℚ) ^ (k + i) = 2 ^ i * 2 ^ k := by
  rw [zpow_add₀ (by norm_num), zpow_natCast, mul_comm]

theorem two_zpow_twice (k : ℤ) : (2 : ℚ) ^ k = 2 * 2 ^ (k - 1) := by
  rw [mul_comm, ← zpow_add_one₀ (by norm_num), Int.sub_add_cancel]

namespace Fits

variable {num den : ℕ} (h : Fits f m e) (hnum : num ≠ 0) (hden : den ≠ 0) {y : ℚ}
  (hx : (num / den : ℚ) = y * 2 ^ unit f m e)
include h

theorem two_zpow_top (k : ℤ) : (2 : ℚ) ^ (k + f.precision - 1) = 2 ^ (f.precision - 1) * 2 ^ k := by
  have hlog := h.log2_lt
  rw [← two_zpow_add]
  congr 1
  omega

include hnum hden hx

/-- The exponent of a ratio near a number is the number's unit. -/
theorem exponent_of_near (hhigh : y < full f m e + 1)
    (hlow : f.minExponent < unit f m e → 2 ^ (f.precision - 1) ≤ y) :
    larger (leadingExponent f num den) f.minExponent = unit f m e := by
  have hunit := zpow_two_pos (unit f m e)
  have hle : leadingExponent f num den ≤ unit f m e := by
    apply leadingExponent_le hnum hden
    have hfull : (full f m e : ℚ) + 1 ≤ 2 ^ f.precision := by exact_mod_cast h.full_lt
    rw [two_zpow_add, hx]
    exact mul_lt_mul_of_pos_right (by linarith) hunit
  have hge : f.minExponent < unit f m e → unit f m e ≤ leadingExponent f num den := by
    intro hlt
    apply le_leadingExponent hnum hden
    rw [h.two_zpow_top, hx]
    exact mul_le_mul_of_nonneg_right (hlow hlt) hunit.le
  have hmin := minExponent_le_unit (f := f) (m := m) (e := e)
  rw [larger]
  split_ifs <;> omega

/-- Just below a power of two, the exponent is that of the next smaller unit. -/
theorem exponent_of_below (hfull : full f m e = 2 ^ (f.precision - 1)) (hmin : f.minExponent < unit f m e)
    (hlow : (full f m e : ℚ) - 1 / 4 ≤ y) (hhigh : y < full f m e) :
    larger (leadingExponent f num den) f.minExponent = unit f m e - 1 := by
  have hfullq : (full f m e : ℚ) = 2 ^ (f.precision - 1) := by exact_mod_cast hfull
  have hle : leadingExponent f num den ≤ unit f m e - 1 := by
    apply leadingExponent_le hnum hden
    have hexp : (2 : ℚ) ^ (unit f m e - 1 + f.precision) = full f m e * 2 ^ unit f m e := by
      rw [hfullq, ← h.two_zpow_top]
      congr 1
      omega
    rw [hexp, hx]
    exact mul_lt_mul_of_pos_right hhigh (zpow_two_pos _)
  have hge : unit f m e - 1 ≤ leadingExponent f num den := by
    apply le_leadingExponent hnum hden
    have hone : (1 : ℚ) ≤ full f m e := by exact_mod_cast h.full_pos
    have hpos := zpow_two_pos (unit f m e - 1)
    rw [h.two_zpow_top, ← hfullq, hx, two_zpow_twice (unit f m e)]
    nlinarith
  rw [larger]
  split_ifs <;> omega

end Fits

/-- A ratio whose quotient by the unit is at most a half from the full mantissa, and at a half only if
that is even, rounds to the number. Below a power of two the units are half as large, and so is what
may be missing. -/
theorem ofRatio_eq_finite {num den : ℕ} (h : Fits f m e) (hf : f.minExponent ≤ f.maxExponent)
    (hden : den ≠ 0) (negative : Bool) {y : ℚ} (hy : (num / den / 2 ^ unit f m e : ℚ) = y)
    (hlow : (full f m e : ℚ) - 1 / 2 ≤ y) (hhigh : y ≤ full f m e + 1 / 2)
    (htie : y = full f m e - 1 / 2 ∨ y = full f m e + 1 / 2 → full f m e % 2 = 0)
    (hpower : full f m e = 2 ^ (f.precision - 1) → f.minExponent < unit f m e →
      (full f m e : ℚ) - 1 / 4 ≤ y) :
    ofRatio f negative num den = .finite negative m e := by
  have hx : (num / den : ℚ) = y * 2 ^ unit f m e := (div_eq_iff (zpow_two_pos _).ne').mp hy
  have hone : (1 : ℚ) ≤ full f m e := by exact_mod_cast h.full_pos
  have hnum : num ≠ 0 := by
    rintro rfl
    rw [Nat.cast_zero, zero_div, zero_div] at hy
    linarith
  have hunitMax := h.unit_le_maxExponent hf
  by_cases hbelow : (full f m e = 2 ^ (f.precision - 1) ∧ f.minExponent < unit f m e) ∧
      y < full f m e
  · -- just below a power of two: the mantissa is carried over to the smaller unit
    obtain ⟨⟨hfull, hlt⟩, hybelow⟩ := hbelow
    have hquarter := hpower hfull hlt
    have hk := h.exponent_of_below hnum hden hx hfull hlt hquarter hybelow
    have htwice : (num / den / 2 ^ (unit f m e - 1) : ℚ) = 2 * y := by
      have hpos := (zpow_two_pos (unit f m e - 1)).ne'
      rw [hx, two_zpow_twice (unit f m e)]
      field_simp
    rw [← h.ofDyadic_twice negative]
    apply ofRatio_eq_ofDyadic hnum hden hk (.inl (by omega)) <;> rw [htwice]
    · push_cast
      linarith
    · push_cast
      linarith
    · intro _
      exact Nat.mul_mod_right 2 _
  · -- above the least exponent the ratio is at least the least full mantissa
    have hleast (hlt : f.minExponent < unit f m e) : (2 : ℚ) ^ (f.precision - 1) ≤ y := by
      rcases (h.le_full_or_unit_eq.resolve_right hlt.ne').eq_or_lt with heq | hgt
      · have hfullq : (full f m e : ℚ) = 2 ^ (f.precision - 1) := by exact_mod_cast heq.symm
        rw [← hfullq]
        by_contra hy'
        exact hbelow ⟨⟨heq.symm, hlt⟩, lt_of_not_ge hy'⟩
      · have hgtq : (2 : ℚ) ^ (f.precision - 1) + 1 ≤ full f m e := by exact_mod_cast hgt
        linarith
    have hk := h.exponent_of_near hnum hden hx (by linarith) hleast
    rw [← h.ofDyadic_full negative]
    apply ofRatio_eq_ofDyadic hnum hden hk _ (by rwa [hy]) (by rwa [hy]) (by rwa [hy])
    rcases hunitMax.eq_or_lt with heq | hlt
    · exact .inr ⟨heq, h.full_lt.ne⟩
    · exact .inl hlt

end Binary

namespace Decimal

open Binary

theorem pow_toNat_div (b : ℚ) (t : ℤ) : b ^ t.toNat / b ^ (-t).toNat = b ^ t := by
  rcases Int.le_total 0 t with ht | ht
  · rw [show (-t).toNat = 0 by omega, pow_zero, div_one, ← zpow_natCast, Int.toNat_of_nonneg ht]
  · rw [show t.toNat = 0 by omega, pow_zero, one_div, ← zpow_natCast, Int.toNat_of_nonneg (by omega),
      zpow_neg, inv_inv]

/-- The value of a decimal. -/
def value (d : Decimal) : ℚ := d.digits * 10 ^ d.exponent

namespace Interval

/-- Whether a rational number lies in the interval. -/
def Contains (i : Interval) (x : ℚ) : Prop :=
  if i.closed then (i.low : ℚ) ≤ x * i.den ∧ x * i.den ≤ i.high
  else (i.low : ℚ) < x * i.den ∧ x * i.den < i.high

theorem holds_iff (i : Interval) (c : ℕ) (t : ℤ) :
    i.holds c t = true ↔ i.Contains (c * 10 ^ t) := by
  have hscale : (0 : ℚ) < 10 ^ (-t).toNat := by positivity
  have hx : (c * 10 ^ t * i.den : ℚ) = c * 10 ^ t.toNat * i.den / 10 ^ (-t).toNat := by
    rw [← pow_toNat_div]
    ring
  rw [holds, Contains, hx]
  split_ifs
  · rw [decide_eq_true_iff, le_div_iff₀ hscale, div_le_iff₀ hscale]
    exact_mod_cast Iff.rfl
  · rw [decide_eq_true_iff, lt_div_iff₀ hscale, div_lt_iff₀ hscale]
    exact_mod_cast Iff.rfl

variable {f : Format} {m : ℕ} {e : ℤ}

/-- Quarters of a unit that the interval reaches down from its number. -/
def below (f : Format) (m : ℕ) (e : ℤ) : ℕ :=
  if full f m e = 2 ^ (f.precision - 1) ∧ f.minExponent < unit f m e then 1 else 2

theorem below_mem : below f m e = 1 ∨ below f m e = 2 := by
  rw [below]
  split_ifs
  · exact .inl rfl
  · exact .inr rfl

theorem of_eq : Interval.of f m e =
    ⟨(4 * full f m e - below f m e) * 2 ^ (unit f m e - 2).toNat,
      4 * full f m e * 2 ^ (unit f m e - 2).toNat,
      (4 * full f m e + 2) * 2 ^ (unit f m e - 2).toNat,
      2 ^ (-(unit f m e - 2)).toNat, full f m e % 2 = 0⟩ := by
  rw [Int.neg_sub]
  rfl

theorem of_den_pos : 0 < (Interval.of f m e).den := by
  rw [of_eq]
  positivity

/-- A count of quarter units over the common denominator. -/
theorem quarters_eq (n : ℕ) (u : ℤ) : ((n * 2 ^ (u - 2).toNat : ℕ) : ℚ) =
    n / 4 * 2 ^ u * 2 ^ (-(u - 2)).toNat := by
  have hden : (2 : ℚ) ^ (-(u - 2)).toNat ≠ 0 := by positivity
  have hpow := pow_toNat_div 2 (u - 2)
  rw [div_eq_iff hden, zpow_sub₀ (by norm_num)] at hpow
  push_cast
  rw [hpow]
  norm_num
  ring

/-- The interval in units of the number: from a half or a quarter below the full mantissa to a half
above it. -/
theorem contains_of_iff (h : Fits f m e) {x y : ℚ} (hy : x / 2 ^ unit f m e = y) :
    (Interval.of f m e).Contains x ↔
      if full f m e % 2 = 0 then (full f m e : ℚ) - below f m e / 4 ≤ y ∧ y ≤ full f m e + 1 / 2
      else (full f m e : ℚ) - below f m e / 4 < y ∧ y < full f m e + 1 / 2 := by
  have hunit := zpow_two_pos (unit f m e)
  have hx : x = y * 2 ^ unit f m e := (div_eq_iff hunit.ne').mp hy
  have hden : (0 : ℚ) < 2 ^ (-(unit f m e - 2)).toNat := by positivity
  have hlow : ((4 * full f m e - below f m e : ℕ) : ℚ) / 4 = full f m e - below f m e / 4 := by
    have hle : below f m e ≤ 4 * full f m e := by
      have := h.full_pos
      rcases below_mem (f := f) (m := m) (e := e) with hb | hb <;> omega
    rw [Nat.cast_sub hle]
    push_cast
    ring
  have hhigh : ((4 * full f m e + 2 : ℕ) : ℚ) / 4 = full f m e + 1 / 2 := by
    push_cast
    ring
  have hcast : ((2 ^ (-(unit f m e - 2)).toNat : ℕ) : ℚ) = 2 ^ (-(unit f m e - 2)).toNat := by
    push_cast
    rfl
  rw [Contains, of_eq]
  simp only [quarters_eq, hlow, hhigh, hcast, hx, mul_le_mul_iff_left₀ hden,
    mul_le_mul_iff_left₀ hunit, mul_lt_mul_iff_left₀ hden, mul_lt_mul_iff_left₀ hunit,
    decide_eq_true_eq]

theorem value_div_den : ((Interval.of f m e).value : ℚ) / (Interval.of f m e).den =
    full f m e * 2 ^ unit f m e := by
  have hden : ((2 ^ (-(unit f m e - 2)).toNat : ℕ) : ℚ) ≠ 0 := by positivity
  rw [of_eq, div_eq_iff hden]
  simp only [quarters_eq]
  push_cast
  ring

/-- The decimals of `n` digits just below the value: their digits and their exponent. -/
def floorDigits (i : Interval) (place : ℤ) (n : ℕ) : ℕ :=
  i.value * 10 ^ (-(place + 1 - n)).toNat / (i.den * 10 ^ (place + 1 - n).toNat)

theorem floorDigits_bounds {i : Interval} (hden : 0 < i.den) (place : ℤ) (n : ℕ) {v : ℚ}
    (hv : (i.value : ℚ) / i.den = v) :
    (floorDigits i place n : ℚ) * 10 ^ (place + 1 - n) ≤ v ∧
      v - 10 ^ (place + 1 - n) < floorDigits i place n * 10 ^ (place + 1 - n) := by
  have hten : (0 : ℚ) < 10 ^ (place + 1 - n : ℤ) := zpow_pos (by norm_num) _
  have hratio : ((i.value * 10 ^ (-(place + 1 - n)).toNat : ℕ) : ℚ) /
      (i.den * 10 ^ (place + 1 - n).toNat : ℕ) = v / 10 ^ (place + 1 - n : ℤ) := by
    rw [← hv, ← pow_toNat_div]
    push_cast
    rw [div_div_div_eq]
  have hfloor := Nat.floor_div_eq_div (K := ℚ) (i.value * 10 ^ (-(place + 1 - n)).toNat)
    (i.den * 10 ^ (place + 1 - n).toNat)
  rw [hratio] at hfloor
  have hnonneg : 0 ≤ v / 10 ^ (place + 1 - n : ℤ) := by
    rw [← hv]
    positivity
  have hle := Nat.floor_le hnonneg
  have hlt := Nat.lt_floor_add_one (v / 10 ^ (place + 1 - n : ℤ))
  rw [hfloor] at hle hlt
  rw [le_div_iff₀ hten] at hle
  rw [div_lt_iff₀ hten] at hlt
  constructor
  · exact hle
  · rw [floorDigits]
    linarith

/-- The search takes one of two neighbours of the value if one fits, or goes on with one digit more. -/
theorem search_succ (i : Interval) (place : ℤ) (fuel n : ℕ) :
    ∃ near : List ℕ, floorDigits i place n ∈ near ∧
      i.search place (fuel + 1) n = match near.find? fun c => i.holds c (place + 1 - n) with
        | some c => ⟨c, place + 1 - n⟩
        | none => i.search place fuel (n + 1) := by
  refine ⟨_, ?_, rfl⟩
  split_ifs
  · exact List.mem_cons_self
  · exact List.mem_cons_of_mem _ List.mem_cons_self

/-- If one of the decimals the search comes by lies in the interval, then the decimal found does. -/
theorem holds_search (i : Interval) (place : ℤ) :
    ∀ (fuel n k : ℕ), k < fuel → i.holds (floorDigits i place (n + k)) (place + 1 - (n + k : ℕ)) →
      i.holds (i.search place fuel n).digits (i.search place fuel n).exponent := by
  intro fuel
  induction fuel with
  | zero =>
    intro n k hk
    omega
  | succ fuel ih =>
    intro n k hk hholds
    obtain ⟨near, hfloor, hstep⟩ := i.search_succ place fuel n
    rw [hstep]
    cases hfind : near.find? fun c => i.holds c (place + 1 - n) with
    | some c => exact List.find?_some (p := fun c => i.holds c (place + 1 - n)) hfind
    | none =>
      have hnot := List.find?_eq_none.mp hfind _ hfloor
      cases k with
      | zero => exact absurd hholds hnot
      | succ k =>
        apply ih (n + 1) k (by omega)
        rwa [show n + 1 + k = n + (k + 1) by omega]

end Interval

theorem digitText_bounds {n : ℕ} (hn : n ≠ 0) :
    10 ^ ((digitText n).length - 1) ≤ n ∧ n < 10 ^ (digitText n).length := by
  have hpos : 0 < (digitText n).length := Nat.length_toDigits_pos
  constructor
  · by_contra hlt
    rcases Nat.eq_zero_or_pos ((digitText n).length - 1) with hzero | hone
    · rw [hzero] at hlt
      omega
    · have hle := (Nat.length_toDigits_le_iff (b := 10) (by decide) hone).mpr (not_le.mp hlt)
      change (digitText n).length ≤ _ at hle
      omega
  · exact (Nat.length_toDigits_le_iff (b := 10) (by decide) hpos).mp le_rfl

theorem leadingPlace_bounds {num den : ℕ} (hnum : 0 < num) (hden : 0 < den) :
    (10 : ℚ) ^ leadingPlace num den ≤ num / den ∧ (num / den : ℚ) < 10 ^ (leadingPlace num den + 1) := by
  have hnumq : (0 : ℚ) < num := by exact_mod_cast hnum
  have hdenq : (0 : ℚ) < den := by exact_mod_cast hden
  rw [leadingPlace]
  split_ifs with hle
  · have hq : num / den ≠ 0 := (Nat.div_pos hle hden).ne'
    obtain ⟨hlow, hhigh⟩ := digitText_bounds hq
    have hpos : 0 < (digitText (num / den)).length := Nat.length_toDigits_pos
    generalize (digitText (num / den)).length = len at *
    rw [show (len : ℤ) - 1 = (len - 1 : ℕ) by omega, show ((len - 1 : ℕ) : ℤ) + 1 = len by omega,
      zpow_natCast, zpow_natCast, le_div_iff₀ hdenq, div_lt_iff₀ hdenq]
    constructor
    · exact_mod_cast (Nat.le_div_iff_mul_le hden).mp hlow
    · exact_mod_cast (Nat.div_lt_iff_lt_mul hden).mp hhigh
  · have hq : (den - 1) / num ≠ 0 := (Nat.div_pos (by omega) hnum).ne'
    obtain ⟨hlow, hhigh⟩ := digitText_bounds hq
    have hpos : 0 < (digitText ((den - 1) / num)).length := Nat.length_toDigits_pos
    generalize (digitText ((den - 1) / num)).length = len at *
    -- The reciprocal lies above the quotient of `den - 1` and at most one above it.
    have hlow' : 10 ^ (len - 1) * num < den := by
      have := (Nat.le_div_iff_mul_le hnum).mp hlow
      omega
    have hhigh' : den ≤ 10 ^ len * num := by
      have := (Nat.div_lt_iff_lt_mul hnum).mp hhigh
      omega
    have hlowq : (10 : ℚ) ^ (len - 1) * num < den := by exact_mod_cast hlow'
    have hhighq : (den : ℚ) ≤ 10 ^ len * num := by exact_mod_cast hhigh'
    rw [show -(len : ℤ) + 1 = -((len - 1 : ℕ) : ℤ) by omega, zpow_neg, zpow_neg, zpow_natCast,
      zpow_natCast, le_div_iff₀ hdenq, div_lt_iff₀ hdenq, inv_mul_le_iff₀ (by positivity),
      lt_inv_mul_iff₀ (by positivity)]
    exact ⟨hhighq, hlowq⟩

theorem value_trimZeros (fuel : ℕ) : ∀ (d : ℕ) (e : ℤ), (trimZeros fuel d e).value = d * 10 ^ e := by
  induction fuel with
  | zero =>
    intro d e
    rfl
  | succ fuel ih =>
    intro d e
    rw [trimZeros]
    split_ifs with hd
    · have hten : d = d / 10 * 10 := (Nat.div_mul_cancel (Nat.dvd_of_mod_eq_zero hd.2)).symm
      have hdq : (d : ℚ) = (d / 10 : ℕ) * 10 := by exact_mod_cast hten
      rw [ih, hdq, zpow_add_one₀ (by norm_num)]
      ring
    · rfl

variable {f : Format} {m : ℕ} {e : ℤ}

/-- With twenty digits the decimal just below a number is less than a quarter unit away. -/
theorem contains_twenty_digits (h : Fits f m e) (hf : f.precision ≤ 60) {i : Interval}
    (hi : Interval.of f m e = i) {place : ℤ} (hplace : place = leadingPlace i.value i.den) :
    i.Contains (i.floorDigits place 20 * 10 ^ (place + 1 - (20 : ℕ))) := by
  have hunit := zpow_two_pos (unit f m e)
  have hvalue : (i.value : ℚ) / i.den = full f m e * 2 ^ unit f m e := hi ▸ Interval.value_div_den
  have hden : 0 < i.den := hi ▸ Interval.of_den_pos
  have hnum : 0 < i.value := by
    have hfull : (0 : ℚ) < full f m e := by exact_mod_cast h.full_pos
    have hpos : (0 : ℚ) < i.value / i.den := by
      rw [hvalue]
      positivity
    by_contra hzero
    rw [Nat.eq_zero_of_not_pos hzero, Nat.cast_zero, zero_div] at hpos
    exact lt_irrefl _ hpos
  have hlead := (leadingPlace_bounds hnum hden).1
  rw [← hplace, hvalue] at hlead
  -- One in the twentieth digit is less than a quarter unit.
  have hstep : (10 : ℚ) ^ (place + 1 - (20 : ℕ)) < 1 / 4 * 2 ^ unit f m e := by
    have hfull : (full f m e : ℚ) < 2 ^ 60 := by
      exact_mod_cast h.full_lt.trans_le (Nat.pow_le_pow_right (by decide) hf)
    have hsplit : (10 : ℚ) ^ (place + 1 - (20 : ℕ)) = 10 ^ place / 10 ^ 19 := by
      rw [show place + 1 - (20 : ℕ) = place - (19 : ℕ) by omega, zpow_sub₀ (by norm_num), zpow_natCast]
    rw [hsplit, div_lt_iff₀ (by norm_num)]
    calc (10 : ℚ) ^ place ≤ full f m e * 2 ^ unit f m e := hlead
      _ < 2 ^ 60 * 2 ^ unit f m e := mul_lt_mul_of_pos_right hfull hunit
      _ ≤ 1 / 4 * 2 ^ unit f m e * 10 ^ 19 := by
          rw [mul_right_comm]
          exact mul_le_mul_of_nonneg_right (by norm_num) hunit.le
  obtain ⟨hle, hlt⟩ := Interval.floorDigits_bounds hden place 20 hvalue
  have hbelow : (1 : ℚ) ≤ Interval.below f m e := by
    rcases Interval.below_mem (f := f) (m := m) (e := e) with hb | hb <;> rw [hb] <;> norm_num
  have hhigh : (i.floorDigits place 20 * 10 ^ (place + 1 - (20 : ℕ)) / 2 ^ unit f m e : ℚ) ≤
      full f m e := (div_le_iff₀ hunit).mpr hle
  have hlow : (full f m e : ℚ) - 1 / 4 <
      i.floorDigits place 20 * 10 ^ (place + 1 - (20 : ℕ)) / 2 ^ unit f m e := by
    rw [lt_div_iff₀ hunit, sub_mul]
    exact (sub_lt_sub_left hstep _).trans hlt
  rw [← hi, Interval.contains_of_iff h rfl, hi]
  generalize (_ / 2 ^ unit f m e : ℚ) = y at *
  split_ifs
  · exact ⟨by linarith, by linarith⟩
  · exact ⟨by linarith, by linarith⟩

/-- The shortest decimal of a number lies in its interval. -/
theorem contains_shortest (h : Fits f m e) (hf : f.precision ≤ 60) :
    (Interval.of f m e).Contains (shortest f m e).value := by
  rw [shortest, if_neg h.ne_zero]
  simp only [value_trimZeros]
  rw [← Interval.holds_iff]
  apply Interval.holds_search _ _ 20 1 19 (by decide)
  rw [Interval.holds_iff]
  exact contains_twenty_digits h hf rfl rfl

/-- A ratio in the interval of a number rounds to the number. -/
theorem ofRatio_of_contains {num den : ℕ} (h : Fits f m e) (hf : f.minExponent ≤ f.maxExponent)
    (hden : den ≠ 0) (hx : (Interval.of f m e).Contains (num / den)) (negative : Bool) :
    ofRatio f negative num den = .finite negative m e := by
  rw [Interval.contains_of_iff h rfl] at hx
  have hbelow : (Interval.below f m e : ℚ) ≤ 2 := by
    rcases Interval.below_mem (f := f) (m := m) (e := e) with hb | hb <;> rw [hb] <;> norm_num
  have hpower : full f m e = 2 ^ (f.precision - 1) → f.minExponent < unit f m e →
      Interval.below f m e = 1 := fun hfull hmin => if_pos ⟨hfull, hmin⟩
  split_ifs at hx with heven
  · apply ofRatio_eq_finite h hf hden negative rfl
    · linarith
    · exact hx.2
    · exact fun _ => heven
    · intro hfull hmin
      rw [hpower hfull hmin, Nat.cast_one] at hx
      exact hx.1
  · apply ofRatio_eq_finite h hf hden negative rfl
    · linarith
    · exact hx.2.le
    · rintro (hy | hy)
      · linarith
      · linarith
    · intro hfull hmin
      rw [hpower hfull hmin, Nat.cast_one] at hx
      exact hx.1.le

end Decimal

namespace Binary

variable {D : ℕ} {E : ℤ}

/-- How many digits a decimal has in front of its point. -/
def size (D : ℕ) (E : ℤ) : ℤ := (Nat.toDigits 10 D).length + E

theorem size_bounds (hD : D ≠ 0) :
    (10 : ℚ) ^ (size D E - 1) ≤ D * 10 ^ E ∧ (D * 10 ^ E : ℚ) < 10 ^ size D E := by
  obtain ⟨hlow, hhigh⟩ := Decimal.digitText_bounds hD
  rw [Decimal.digitText] at hlow hhigh
  have hpos : 0 < (Nat.toDigits 10 D).length := Nat.length_toDigits_pos
  have hten : (0 : ℚ) < 10 ^ E := zpow_pos (by norm_num) E
  rw [size]
  generalize (Nat.toDigits 10 D).length = len at *
  constructor
  · rw [show (len : ℤ) + E - 1 = (len - 1 : ℕ) + E by omega, zpow_add₀ (by norm_num), zpow_natCast]
    exact mul_le_mul_of_nonneg_right (by exact_mod_cast hlow) hten.le
  · rw [zpow_add₀ (by norm_num), zpow_natCast]
    exact mul_lt_mul_of_pos_right (by exact_mod_cast hhigh) hten

theorem lt_size (hD : D ≠ 0) {k : ℤ} (h : (10 : ℚ) ^ k ≤ D * 10 ^ E) : k < size D E :=
  (zpow_lt_zpow_iff_right₀ (by norm_num : (1 : ℚ) < 10)).mp (h.trans_lt (size_bounds hD).2)

theorem size_le (hD : D ≠ 0) {k : ℤ} (h : (D * 10 ^ E : ℚ) < 10 ^ k) : size D E ≤ k := by
  have := (zpow_lt_zpow_iff_right₀ (by norm_num : (1 : ℚ) < 10)).mp ((size_bounds hD).1.trans_lt h)
  omega

theorem zpow_two_lt_ten {a b : ℤ} (hb : 0 ≤ b) (h : a < 3 * b) : (2 : ℚ) ^ a < 10 ^ b := by
  calc (2 : ℚ) ^ a < 2 ^ (3 * b) := zpow_lt_zpow_right₀ (by norm_num) h
    _ = (2 ^ (3 : ℤ)) ^ b := zpow_mul 2 3 b
    _ ≤ 10 ^ b := zpow_le_zpow_left₀ hb (by positivity) (by norm_num)

/-- A decimal of ordinary size is rounded as the ratio it is. -/
theorem ofDecimal_eq_ofRatio (f : Format) (negative : Bool) (hD : D ≠ 0) (hsmall : -400 ≤ size D E)
    (hlarge : size D E ≤ 400) :
    ∃ num den : ℕ, den ≠ 0 ∧ (num / den : ℚ) = D * 10 ^ E ∧
      ofDecimal f negative D E = ofRatio f negative num den := by
  rw [size] at hsmall hlarge
  rw [ofDecimal, if_neg (by omega), if_neg (by omega)]
  split_ifs with hE
  · refine ⟨D * 10 ^ E.toNat, 1, by decide, ?_, rfl⟩
    push_cast
    rw [div_one, ← zpow_natCast, Int.toNat_of_nonneg hE]
  · refine ⟨D, 10 ^ (-E).toNat, by positivity, ?_, rfl⟩
    push_cast
    rw [← zpow_natCast, Int.toNat_of_nonneg (by omega), zpow_neg, div_inv_eq_mul]

theorem ofDecimal_isFinite (negative : Bool) (h : (D * 10 ^ E : ℚ) < 2 ^ (1023 : ℤ)) :
    (ofDecimal .double negative D E).isFinite = true := by
  by_cases hzero : D = 0 ∨ size D E < -400
  · rw [ofDecimal]
    exact (congrArg isFinite (if_pos hzero)).trans rfl
  · obtain ⟨hD, hsmall⟩ := not_or.mp hzero
    have hlarge : size D E ≤ 400 := by
      apply size_le hD
      exact h.trans (zpow_two_lt_ten (by decide) (by decide))
    obtain ⟨num, den, hden, hratio, heq⟩ :=
      ofDecimal_eq_ofRatio .double negative hD (by omega) hlarge
    rw [heq]
    apply ofRatio_isFinite (by decide) negative hden
    rw [hratio]
    exact h

/-- A decimal in the interval of a double reads as that double. -/
theorem ofDecimal_of_contains {m : ℕ} {e : ℤ} (h : Fits .double m e)
    (hx : (Decimal.Interval.of .double m e).Contains (D * 10 ^ E)) (negative : Bool) :
    ofDecimal .double negative D E = .finite negative m e := by
  have hunit := zpow_two_pos (unit .double m e)
  have hone : (1 : ℚ) ≤ full .double m e := by exact_mod_cast h.full_pos
  have hfull : (full .double m e : ℚ) + 1 ≤ 2 ^ 53 := by exact_mod_cast h.full_lt
  have hbelow : (Decimal.Interval.below .double m e : ℚ) ≤ 2 := by
    rcases Decimal.Interval.below_mem (f := .double) (m := m) (e := e) with hb | hb <;> rw [hb] <;>
      norm_num
  have hy : (1 / 2 : ℚ) ≤ D * 10 ^ E / 2 ^ unit .double m e ∧
      (D * 10 ^ E / 2 ^ unit .double m e : ℚ) ≤ 2 ^ 53 := by
    have hx' := (Decimal.Interval.contains_of_iff h rfl).mp hx
    generalize (D * 10 ^ E / 2 ^ unit .double m e : ℚ) = y at *
    split_ifs at hx'
    · exact ⟨by linarith, by linarith⟩
    · exact ⟨by linarith, by linarith⟩
  rw [le_div_iff₀ hunit, div_le_iff₀ hunit] at hy
  have hlow : (2 : ℚ) ^ (-1074 : ℤ) ≤ 2 ^ unit .double m e :=
    zpow_le_zpow_right₀ (by norm_num) minExponent_le_unit
  have hhigh : (2 : ℚ) ^ unit .double m e ≤ 2 ^ (971 : ℤ) :=
    zpow_le_zpow_right₀ (by norm_num) (h.unit_le_maxExponent (by decide))
  have hD : D ≠ 0 := by
    rintro rfl
    rw [Nat.cast_zero, zero_mul] at hy
    linarith
  have hsmall : -400 < size D E := by
    apply lt_size hD
    have hhalf : (1 / 2 : ℚ) * 2 ^ (-1074 : ℤ) = (2 ^ (1075 : ℤ))⁻¹ := by
      rw [← zpow_neg, show (-1075 : ℤ) = -1 + -1074 by decide, zpow_add₀ (by norm_num), zpow_neg_one,
        one_div]
    calc (10 : ℚ) ^ (-400 : ℤ) = (10 ^ (400 : ℤ))⁻¹ := zpow_neg 10 400
      _ ≤ (2 ^ (1075 : ℤ))⁻¹ :=
          inv_anti₀ (zpow_two_pos 1075) (zpow_two_lt_ten (by decide) (by decide)).le
      _ = 1 / 2 * 2 ^ (-1074 : ℤ) := hhalf.symm
      _ ≤ 1 / 2 * 2 ^ unit .double m e := mul_le_mul_of_nonneg_left hlow (by norm_num)
      _ ≤ D * 10 ^ E := hy.1
  have hlarge : size D E ≤ 400 := by
    apply size_le hD
    calc (D * 10 ^ E : ℚ) ≤ 2 ^ 53 * 2 ^ unit .double m e := hy.2
      _ ≤ 2 ^ 53 * 2 ^ (971 : ℤ) := mul_le_mul_of_nonneg_left hhigh (by norm_num)
      _ = 2 ^ (1024 : ℤ) := by
          rw [← zpow_natCast, ← zpow_add₀ (by norm_num)]
          rfl
      _ < 10 ^ (400 : ℤ) := zpow_two_lt_ten (by decide) (by decide)
  obtain ⟨num, den, hden, hratio, heq⟩ := ofDecimal_eq_ofRatio .double negative hD hsmall.le hlarge
  rw [heq]
  exact Decimal.ofRatio_of_contains h (by decide) hden (hratio ▸ hx) negative

end Binary
end Courier
