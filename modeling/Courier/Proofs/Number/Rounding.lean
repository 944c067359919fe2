import Courier.Number.Binary
import Mathlib.Algebra.Order.Field.Power
import Mathlib.Algebra.Order.Round
import Mathlib.Data.Nat.Log
import Mathlib.Data.Rat.Cast.Order
import Mathlib.Tactic.FieldSimp
import Mathlib.Tactic.Linarith
import Mathlib.Tactic.Positivity
import Mathlib.Tactic.Ring

/-! Rounding a ratio to a format, told in rational numbers: which exponent a ratio gets, which mantissa,
and when it stays finite. -/
namespace Courier.Binary

variable {f : Format} {num den : ℕ} {e : ℤ}

theorem scaled_pos (hden : 0 < den) : 0 < (scaled num den e).2 := by
  rw [scaled]
  split_ifs
  · exact Nat.mul_pos hden (Nat.pow_pos (by decide))
  · exact hden

theorem scaled_div :
    ((scaled num den e).1 : ℚ) / (scaled num den e).2 = num / den / 2 ^ e := by
  rw [scaled]
  split_ifs with he
  · have hcast : ((2 ^ e.toNat : ℕ) : ℚ) = 2 ^ e := by
      rw [Nat.cast_pow, Nat.cast_ofNat, ← zpow_natCast, Int.toNat_of_nonneg he]
    change (num : ℚ) / (den * (2 ^ e.toNat : ℕ) : ℕ) = _
    rw [Nat.cast_mul, hcast, div_div]
  · have hcast : ((2 ^ (-e).toNat : ℕ) : ℚ) = (2 ^ e)⁻¹ := by
      rw [Nat.cast_pow, Nat.cast_ofNat, ← zpow_natCast, Int.toNat_of_nonneg (by omega), zpow_neg]
    change ((num * (2 ^ (-e).toNat : ℕ) : ℕ) : ℚ) / den = _
    rw [Nat.cast_mul, hcast]
    ring

theorem log2_bounds {n : ℕ} (hn : n ≠ 0) :
    (2 : ℚ) ^ (n.log2 : ℤ) ≤ n ∧ (n : ℚ) < 2 ^ (n.log2 + 1 : ℤ) := by
  constructor
  · rw [zpow_natCast]
    exact_mod_cast Nat.log2_self_le hn
  · have h : n < 2 ^ (n.log2 + 1) := Nat.lt_log2_self
    have hcast : (2 : ℚ) ^ (n.log2 + 1 : ℤ) = ((2 ^ (n.log2 + 1) : ℕ) : ℚ) := by
      rw [Nat.cast_pow, Nat.cast_ofNat, ← zpow_natCast]
      rfl
    rw [hcast]
    exact_mod_cast h

theorem zpow_two_pos (e : ℤ) : (0 : ℚ) < 2 ^ e := zpow_pos (by norm_num) e

/-- The leading exponent puts the ratio between two powers of two, a factor of two apart. -/
theorem leadingExponent_bounds (hnum : num ≠ 0) (hden : den ≠ 0) :
    (2 : ℚ) ^ (leadingExponent f num den + f.precision - 1) ≤ num / den ∧
      (num / den : ℚ) < 2 ^ (leadingExponent f num den + f.precision) := by
  obtain ⟨hnumLow, hnumHigh⟩ := log2_bounds hnum
  obtain ⟨hdenLow, hdenHigh⟩ := log2_bounds hden
  have hdenPos : (0 : ℚ) < den := by exact_mod_cast Nat.pos_of_ne_zero hden
  -- The two logarithms give the ratio up to a factor of four; the comparison decides the rest.
  let k : ℤ := num.log2 - den.log2
  have hlow : (2 : ℚ) ^ (k - 1) ≤ num / den := by
    rw [le_div_iff₀ hdenPos]
    calc (2 : ℚ) ^ (k - 1) * den ≤ 2 ^ (k - 1) * 2 ^ (den.log2 + 1 : ℤ) := by
          gcongr
      _ = 2 ^ (num.log2 : ℤ) := by
          rw [← zpow_add₀ (by norm_num)]
          congr 1
          omega
      _ ≤ num := hnumLow
  have hhigh : (num / den : ℚ) < 2 ^ (k + 1) := by
    rw [div_lt_iff₀ hdenPos]
    calc (num : ℚ) < 2 ^ (num.log2 + 1 : ℤ) := hnumHigh
      _ = 2 ^ (k + 1) * 2 ^ (den.log2 : ℤ) := by
          rw [← zpow_add₀ (by norm_num)]
          congr 1
          omega
      _ ≤ 2 ^ (k + 1) * den := by gcongr
  have hcompare : (scaled num den k).1 < (scaled num den k).2 ↔ (num / den : ℚ) < 2 ^ k := by
    have hpos : (0 : ℚ) < (scaled num den k).2 := by
      exact_mod_cast (scaled_pos (Nat.pos_of_ne_zero hden) : 0 < (scaled num den k).2)
    rw [← div_lt_one (zpow_two_pos k), ← scaled_div, div_lt_one hpos,
      Nat.cast_lt]
  have hlead : leadingExponent f num den =
      if (num / den : ℚ) < 2 ^ k then k - f.precision else k - f.precision + 1 := by
    rw [leadingExponent]
    simp only [Int.sub_add_cancel]
    exact if_congr hcompare rfl rfl
  rw [hlead]
  split_ifs with hk
  · rw [show k - f.precision + f.precision - 1 = k - 1 by omega,
      show k - f.precision + f.precision = k by omega]
    exact ⟨hlow, hk⟩
  · rw [show k - f.precision + 1 + f.precision - 1 = k by omega,
      show k - f.precision + 1 + f.precision = k + 1 by omega]
    exact ⟨le_of_not_gt hk, hhigh⟩

theorem leadingExponent_le (hnum : num ≠ 0) (hden : den ≠ 0) {a : ℤ}
    (h : (num / den : ℚ) < 2 ^ (a + f.precision)) : leadingExponent f num den ≤ a := by
  have hlow := (leadingExponent_bounds (f := f) hnum hden).1
  have hlt := (zpow_lt_zpow_iff_right₀ (by norm_num : (1 : ℚ) < 2)).mp (hlow.trans_lt h)
  omega

theorem le_leadingExponent (hnum : num ≠ 0) (hden : den ≠ 0) {a : ℤ}
    (h : (2 : ℚ) ^ (a + f.precision - 1) ≤ num / den) : a ≤ leadingExponent f num den := by
  have hhigh := (leadingExponent_bounds (f := f) hnum hden).2
  have hlt := (zpow_lt_zpow_iff_right₀ (by norm_num : (1 : ℚ) < 2)).mp (h.trans_lt hhigh)
  omega

/-- The rounded quotient is the integer at most a half away, and at a half the even one. -/
theorem roundHalfEven_eq {a b n : ℕ} (hb : 0 < b) (hlow : (n : ℚ) - 1 / 2 ≤ a / b)
    (hhigh : (a / b : ℚ) ≤ n + 1 / 2)
    (htie : (a / b : ℚ) = n - 1 / 2 ∨ (a / b : ℚ) = n + 1 / 2 → n % 2 = 0) :
    roundHalfEven a b = n := by
  have hbq : (0 : ℚ) < b := by exact_mod_cast hb
  -- Without denominators: `2a` lies between `2bn - b` and `2bn + b`.
  have hlow' : 2 * (b * n) ≤ 2 * a + b := by
    rw [le_div_iff₀ hbq] at hlow
    have h : (2 * (b * n) : ℚ) ≤ 2 * a + b := by linarith
    exact_mod_cast h
  have hhigh' : 2 * a ≤ 2 * (b * n) + b := by
    rw [div_le_iff₀ hbq] at hhigh
    have h : (2 * a : ℚ) ≤ 2 * (b * n) + b := by linarith
    exact_mod_cast h
  have hbelow : 2 * (b * n) = 2 * a + b → n % 2 = 0 := by
    intro h
    have hq : (2 * (b * n) : ℚ) = 2 * a + b := by exact_mod_cast h
    exact htie (.inl ((div_eq_iff hbq.ne').mpr (by linarith)))
  have habove : 2 * a = 2 * (b * n) + b → n % 2 = 0 := by
    intro h
    have hq : (2 * a : ℚ) = 2 * (b * n) + b := by exact_mod_cast h
    exact htie (.inr ((div_eq_iff hbq.ne').mpr (by linarith)))
  clear hlow hhigh htie hbq
  have hsplit := Nat.div_add_mod a b
  have hrest := Nat.mod_lt a hb
  rw [roundHalfEven]
  generalize a / b = q at *
  generalize a % b = r at *
  have hle : q ≤ n := by
    by_contra hlt
    have hmul : b * (n + 1) ≤ b * q := Nat.mul_le_mul_left b (by omega)
    rw [Nat.mul_succ] at hmul
    omega
  have hge : n ≤ q + 1 := by
    by_contra hlt
    have hmul : b * (q + 2) ≤ b * n := Nat.mul_le_mul_left b (by omega)
    rw [Nat.mul_add] at hmul
    omega
  obtain rfl | rfl : n = q ∨ n = q + 1 := by omega
  · split_ifs <;> omega
  · rw [Nat.mul_succ] at hlow' hhigh' hbelow habove
    split_ifs <;> omega

theorem roundHalfEven_le {a b n : ℕ} (h : a < n * b) : roundHalfEven a b ≤ n := by
  have hquotient : a / b < n := Nat.div_lt_of_lt_mul (by rwa [Nat.mul_comm])
  rw [roundHalfEven]
  split_ifs <;> omega

theorem oddPart_mul_pow {m : ℕ} (hm : m % 2 = 1) (k : ℕ) :
    ∀ (fuel : ℕ) (e : ℤ), k ≤ fuel → oddPart fuel (m * 2 ^ k) e = (m, e + k) := by
  induction k with
  | zero =>
    intro fuel e _
    cases fuel with
    | zero => simp [oddPart]
    | succ fuel => simp [oddPart, hm]
  | succ k ih =>
    intro fuel e hfuel
    obtain ⟨fuel, rfl⟩ : ∃ g, fuel = g + 1 := ⟨fuel - 1, by omega⟩
    have heven : m * 2 ^ (k + 1) % 2 = 0 := by
      rw [Nat.pow_succ, ← Nat.mul_assoc]
      exact Nat.mul_mod_left _ _
    have hhalf : m * 2 ^ (k + 1) / 2 = m * 2 ^ k := by
      rw [Nat.pow_succ, ← Nat.mul_assoc]
      exact Nat.mul_div_cancel _ (by decide)
    rw [oddPart, if_pos heven, hhalf, ih fuel (e + 1) (by omega)]
    congr 1
    push_cast
    ring

theorem ofDyadic_mul_pow {m : ℕ} (hm : m % 2 = 1) (negative : Bool) (k : ℕ) (e : ℤ) :
    ofDyadic negative (m * 2 ^ k) e = .finite negative m (e + k) := by
  have hm₀ : m ≠ 0 := by omega
  have hk : k ≤ (m * 2 ^ k).log2 := by
    rw [Nat.le_log2 (by positivity)]
    exact Nat.le_mul_of_pos_left _ (by omega)
  rw [ofDyadic, if_neg (by positivity), oddPart_mul_pow hm k _ e hk]

theorem ofDyadic_isFinite (negative : Bool) (m : ℕ) (e : ℤ) :
    (ofDyadic negative m e).isFinite = true := by
  rw [ofDyadic]
  split_ifs <;> rfl

/-- A ratio below the largest power of two of a format has a finite rounding. -/
theorem ofRatio_isFinite (hf : f.minExponent < f.maxExponent) (negative : Bool) (hden : den ≠ 0)
    (h : (num / den : ℚ) < 2 ^ (f.maxExponent - 1 + f.precision)) :
    (ofRatio f negative num den).isFinite = true := by
  rw [ofRatio]
  split_ifs with hnum
  · rfl
  · have hlead : leadingExponent f num den ≤ f.maxExponent - 1 := leadingExponent_le hnum hden h
    have he : larger (leadingExponent f num den) f.minExponent < f.maxExponent := by
      rw [larger]
      split_ifs <;> omega
    simp only
    rw [if_neg (by omega)]
    exact ofDyadic_isFinite ..

end Courier.Binary
