import Courier.Proofs.Number.Numeral

/-! What numbers amount to, apart from the format they are kept in.
In a format a number has one representation, so numbers are equal just when they amount to the same. An
integer becomes the double that it rounds to: itself below `2 ^ 53`, and above that the nearest multiple
of the distance between doubles of its size. -/
namespace Courier

/-- What a number amounts to. -/
inductive Amount
  | infinite (negative : Bool)
  | rational (q : ℚ)

namespace Binary

variable {f g : Format} {x y : Binary}

/-- The rational number `m * 2 ^ e`, with its sign. -/
def signed (negative : Bool) (m : ℕ) (e : ℤ) : ℚ := if negative then -(m * 2 ^ e) else m * 2 ^ e

def amount? : Binary → Option Amount
  | .nan => none
  | .infinite s => some (.infinite s)
  | .finite s m e => some (.rational (signed s m e))

theorem exists_amount (hx : x ≠ .nan) : ∃ a, x.amount? = some a := by
  cases x with
  | nan => exact absurd rfl hx
  | infinite s => exact ⟨_, rfl⟩
  | finite s m e => exact ⟨_, rfl⟩

theorem eq_infinite {s : Bool} (h : x.amount? = some (.infinite s)) : x = .infinite s := by
  cases x with
  | infinite t =>
    obtain rfl : t = s := by simpa [amount?] using h
    rfl
  | nan => cases h
  | finite => cases h

theorem signed_pos {m : ℕ} (hm : m ≠ 0) (e : ℤ) : (0 : ℚ) < m * 2 ^ e :=
  mul_pos (by exact_mod_cast Nat.pos_of_ne_zero hm) (zpow_two_pos e)

theorem signed_eq_zero_iff {s : Bool} {m : ℕ} {e : ℤ} : signed s m e = 0 ↔ m = 0 := by
  have hpow := (zpow_two_pos e).ne'
  cases s <;> simp [signed, hpow]

/-- The lower of the two exponents goes into both mantissas, where only an odd number times a power of
two can be odd again. -/
theorem odd_unique {m n : ℕ} {e k : ℤ} (hm : m % 2 = 1) (hn : n % 2 = 1)
    (h : (m * 2 ^ e : ℚ) = n * 2 ^ k) : m = n ∧ e = k := by
  wlog hle : e ≤ k generalizing m n e k
  · obtain ⟨hmn, hek⟩ := this hn hm h.symm (by omega)
    exact ⟨hmn.symm, hek.symm⟩
  obtain ⟨i, rfl⟩ : ∃ i : ℕ, k = e + i := ⟨(k - e).toNat, by omega⟩
  have hnat : m = n * 2 ^ i := by
    rw [two_zpow_add, ← mul_assoc] at h
    exact_mod_cast mul_right_cancel₀ (zpow_two_pos e).ne' h
  cases i with
  | zero => exact ⟨by simpa using hnat, by simp⟩
  | succ i =>
    rw [Nat.pow_succ, ← Nat.mul_assoc] at hnat
    omega

/-- The sign, the mantissa and the exponent can be told from the amount. -/
theorem signed_inj {s t : Bool} {m n : ℕ} {e k : ℤ} (hm : Fits f m e) (hn : Fits g n k)
    (h : signed s m e = signed t n k) : s = t ∧ m = n ∧ e = k := by
  have hmpos := signed_pos hm.ne_zero e
  have hnpos := signed_pos hn.ne_zero k
  cases s <;> cases t <;> simp only [signed, Bool.false_eq_true, ↓reduceIte] at h
  · exact ⟨rfl, odd_unique hm.odd hn.odd h⟩
  · linarith
  · linarith
  · exact ⟨rfl, odd_unique hm.odd hn.odd (neg_injective h)⟩

theorem signed_eq_iff {s t : Bool} {m n : ℕ} {e k : ℤ} (hx : InFormat f (.finite s m e))
    (hy : InFormat g (.finite t n k)) :
    signed s m e = signed t n k ↔ m = 0 ∧ n = 0 ∨ s = t ∧ m = n ∧ e = k := by
  constructor
  · intro h
    by_cases hm : m = 0
    · have hn : n = 0 := signed_eq_zero_iff.mp (h.symm.trans (signed_eq_zero_iff.mpr hm))
      exact .inl ⟨hm, hn⟩
    · have hn : n ≠ 0 := fun hn => hm (signed_eq_zero_iff.mp (h.trans (signed_eq_zero_iff.mpr hn)))
      exact .inr (signed_inj (hx.resolve_left fun hz => hm hz.1) (hy.resolve_left fun hz => hn hz.1) h)
  · rintro (⟨rfl, rfl⟩ | ⟨rfl, rfl, rfl⟩)
    · rw [signed_eq_zero_iff.mpr rfl, signed_eq_zero_iff.mpr rfl]
    · rfl

theorem numEq_finite_iff {s t : Bool} {m n : ℕ} {e k : ℤ} :
    (finite s m e).numEq (finite t n k) = true ↔ m = 0 ∧ n = 0 ∨ s = t ∧ m = n ∧ e = k := by
  cases m <;> cases n <;> simp [numEq]

/-- Equal numbers are those that amount to the same; the two zeros are among them, and not-a-number
equals nothing. -/
theorem numEq_iff (hx : x.InFormat f) (hy : y.InFormat g) :
    x.numEq y = true ↔ ∃ a, x.amount? = some a ∧ y.amount? = some a := by
  cases x with
  | nan => simp [numEq, amount?]
  | infinite s =>
    cases y with
    | infinite t => simp [numEq, amount?, eq_comm]
    | _ => simp [numEq, amount?]
  | finite s m e =>
    cases y with
    | finite t n k =>
      rw [numEq_finite_iff, ← signed_eq_iff hx hy]
      simp [amount?, eq_comm]
    | _ => simp [numEq, amount?]

/-- An odd mantissa with a negative exponent leaves a fraction. -/
theorem exponent_nonneg_of_eq_int {s : Bool} {m : ℕ} {e n : ℤ} (hm : m % 2 = 1) (h : signed s m e = n) :
    0 ≤ e := by
  by_contra! hneg
  obtain ⟨i, hi⟩ : ∃ i : ℕ, e = -(i + 1 : ℕ) := ⟨(-e - 1).toNat, by omega⟩
  have habs : (m : ℚ) * 2 ^ e = n.natAbs := by
    have hpos := signed_pos (by omega : m ≠ 0) e
    rw [Nat.cast_natAbs, Int.cast_abs, ← h, signed]
    split_ifs
    · rw [abs_neg, abs_of_pos hpos]
    · rw [abs_of_pos hpos]
  have hnat : m = n.natAbs * 2 ^ (i + 1) := by
    rw [hi, zpow_neg, zpow_natCast, ← div_eq_mul_inv, div_eq_iff (by positivity)] at habs
    exact_mod_cast habs
  rw [Nat.pow_succ, ← Nat.mul_assoc] at hnat
  omega

/-- Whole numbers are those that amount to an integer. -/
theorem isWhole_iff (hx : x.InFormat f) :
    x.isWhole = true ↔ ∃ n : ℤ, x.amount? = some (.rational n) := by
  cases x with
  | finite s m e =>
    simp only [isWhole, amount?, Option.some.injEq, Amount.rational.injEq, Bool.or_eq_true,
      decide_eq_true_eq]
    constructor
    · rintro (rfl | he)
      · exact ⟨0, by rw [signed_eq_zero_iff.mpr rfl, Int.cast_zero]⟩
      · obtain ⟨i, rfl⟩ := Int.eq_ofNat_of_zero_le he
        refine ⟨if s then -(m * 2 ^ i) else m * 2 ^ i, ?_⟩
        rw [signed]
        split_ifs <;> push_cast <;> rfl
    · rintro ⟨n, hn⟩
      rcases hx with ⟨hzero, -⟩ | hfits
      · exact .inl hzero
      · exact .inr (exponent_nonneg_of_eq_int hfits.odd hn)
  | _ => simp [isWhole, amount?]

/-- Moving factors of two between mantissa and exponent changes nothing. -/
theorem amount?_ofDyadic (s : Bool) (m : ℕ) (e : ℤ) :
    (ofDyadic s m e).amount? = some (.rational (signed s m e)) := by
  by_cases hm : m = 0
  · rw [ofDyadic, if_pos hm, amount?, signed_eq_zero_iff.mpr hm, signed_eq_zero_iff.mpr rfl]
  obtain ⟨i, o, hodd, rfl⟩ := Nat.exists_eq_two_pow_mul_odd hm
  rw [Nat.mul_comm, ofDyadic_mul_pow (Nat.odd_iff.mp hodd), amount?, signed, signed, two_zpow_add,
    ← mul_assoc]
  push_cast
  rfl

theorem amount?_ofRatio {num den : ℕ} {e : ℤ} (hnum : num ≠ 0)
    (he : larger (leadingExponent f num den) f.minExponent = e) (hmax : e < f.maxExponent) (s : Bool) :
    (ofRatio f s num den).amount? =
      some (.rational (signed s (roundHalfEven (scaled num den e).1 (scaled num den e).2) e)) := by
  have hfinite : ∀ m, ¬ (f.maxExponent < e ∨ e = f.maxExponent ∧ m = Nat.pow 2 f.precision) := by
    intro m
    omega
  rw [ofRatio, if_neg hnum]
  simp only [he]
  rw [if_neg (hfinite _), amount?_ofDyadic]

/-- How far apart the doubles of an integer's size are, for integers; they have 53 digits. -/
def spacing (n : ℤ) : ℤ := 2 ^ (n.natAbs.log2 - 52)

/-- The double nearest to an integer, and halfway between two of them the even one. -/
structure RoundsTo (n r : ℤ) : Prop where
  onGrid : spacing n ∣ r
  near : 2 * |n - r| ≤ spacing n
  even : 2 * |n - r| = spacing n → 2 * spacing n ∣ r

theorem spacing_pos (n : ℤ) : 0 < spacing n := pow_pos (by decide) _

theorem spacing_neg (n : ℤ) : spacing (-n) = spacing n := by rw [spacing, spacing, Int.natAbs_neg]

theorem log2_natAbs_lt {n : ℤ} {k : ℕ} (hk : 0 < k) (h : n.natAbs < 2 ^ k) : n.natAbs.log2 < k := by
  by_cases hn : n.natAbs = 0
  · rwa [hn, Nat.log2_zero]
  · exact (Nat.log2_lt hn).mpr h

theorem spacing_of_lt {n : ℤ} (h : n.natAbs < 2 ^ 53) : spacing n = 1 := by
  have hlog := log2_natAbs_lt (by decide) h
  rw [spacing, Nat.sub_eq_zero_of_le (Nat.le_of_lt_succ hlog), pow_zero]

theorem spacing_le {n : ℤ} (h : n.natAbs < 2 ^ 64) : spacing n ≤ 2 ^ 11 := by
  have hlog := log2_natAbs_lt (by decide) h
  exact pow_le_pow_right₀ (by decide) (by omega)

namespace RoundsTo

variable {m n r : ℤ}

theorem neg (h : RoundsTo n r) : RoundsTo (-n) (-r) where
  onGrid := by
    rw [spacing_neg, dvd_neg]
    exact h.onGrid
  near := by
    rw [spacing_neg, neg_sub_neg, abs_sub_comm]
    exact h.near
  even := by
    rw [spacing_neg, neg_sub_neg, abs_sub_comm, dvd_neg]
    exact h.even

/-- Two neighbours on the grid cannot both be even. -/
theorem unique {s : ℤ} (h : RoundsTo n r) (h' : RoundsTo n s) : r = s := by
  by_contra hne
  have hpos := spacing_pos n
  obtain ⟨p, rfl⟩ := h.onGrid
  obtain ⟨q, rfl⟩ := h'.onGrid
  have hpq : p ≠ q := fun hpq => hne (by rw [hpq])
  have hone : 1 ≤ |p - q| := Int.one_le_abs (sub_ne_zero.mpr hpq)
  have hdist : spacing n * |p - q| = |spacing n * p - spacing n * q| := by
    rw [← mul_sub, abs_mul, abs_of_pos hpos]
  have htriangle := abs_sub_le (spacing n * p) n (spacing n * q)
  rw [abs_sub_comm (spacing n * p) n, ← hdist] at htriangle
  have hnear := h.near
  have hnear' := h'.near
  have hspan : spacing n * 1 ≤ spacing n * |p - q| := mul_le_mul_of_nonneg_left hone hpos.le
  have hle : |p - q| ≤ 1 := le_of_mul_le_mul_left (by omega) hpos
  obtain ⟨i, hi⟩ := h.even (by omega)
  obtain ⟨j, hj⟩ := h'.even (by omega)
  have hp : p = 2 * i := mul_left_cancel₀ hpos.ne' (by rw [hi]; ring)
  have hq : q = 2 * j := mul_left_cancel₀ hpos.ne' (by rw [hj]; ring)
  have hbounds := abs_le.mp hle
  omega

theorem eq_of_lt (h : RoundsTo n r) (hn : n.natAbs < 2 ^ 53) : r = n := by
  have hnear := h.near
  rw [spacing_of_lt hn] at hnear
  have hzero : |n - r| = 0 := by
    have := abs_nonneg (n - r)
    omega
  exact (sub_eq_zero.mp (abs_eq_zero.mp hzero)).symm

/-- The power of two below an integer is on its grid, so rounding does not lead past it. -/
theorem le_natAbs (h : RoundsTo n r) (hn : 2 ^ 53 ≤ n.natAbs) : 2 ^ 53 ≤ r.natAbs := by
  have hne : n.natAbs ≠ 0 := by omega
  have hlog : 53 ≤ n.natAbs.log2 := (Nat.le_log2 hne).mpr hn
  have hpos := spacing_pos n
  have hpower : (2 : ℤ) ^ n.natAbs.log2 = spacing n * 2 ^ 52 := by
    rw [spacing, ← pow_add]
    congr 1
    omega
  have hlow : spacing n * 2 ^ 52 ≤ |n| := by
    rw [← hpower, ← Int.natCast_natAbs]
    exact_mod_cast Nat.log2_self_le hne
  have hge : spacing n * 2 ^ 52 ≤ |r| := by
    obtain ⟨q, rfl⟩ := h.onGrid
    rw [abs_mul, abs_of_pos hpos]
    by_contra! hlt
    have hq : |q| + 1 ≤ 2 ^ 52 := lt_of_mul_lt_mul_left hlt hpos.le
    have hstep : spacing n * (|q| + 1) ≤ spacing n * 2 ^ 52 := mul_le_mul_of_nonneg_left hq hpos.le
    have hdist := abs_sub_abs_le_abs_sub n (spacing n * q)
    have hnear := h.near
    rw [abs_mul, abs_of_pos hpos] at hdist
    rw [mul_add] at hstep
    omega
  have hmin : (2 : ℤ) ^ 53 ≤ |r| := by
    rw [← hpower] at hge
    exact (pow_le_pow_right₀ (by decide) hlog).trans hge
  rw [← Int.natCast_natAbs] at hmin
  exact_mod_cast hmin

/-- An integer on its own grid is a double. -/
theorem self (h : spacing n ∣ n) : RoundsTo n n where
  onGrid := h
  near := by
    rw [sub_self, abs_zero, mul_zero]
    exact (spacing_pos n).le
  even := by
    rw [sub_self, abs_zero, mul_zero]
    exact fun heq => absurd heq (spacing_pos n).ne

/-- Integers that round to the same double are the same below `2 ^ 53`, and no further apart than the
doubles above it. -/
theorem eq_or_near (hm : RoundsTo m r) (hn : RoundsTo n r) :
    m = n ∨ 2 ^ 53 ≤ m.natAbs ∧ 2 ^ 53 ≤ n.natAbs ∧ 2 * |m - n| ≤ spacing m + spacing n := by
  by_cases hmsmall : m.natAbs < 2 ^ 53
  · have hrm := hm.eq_of_lt hmsmall
    by_cases hnsmall : n.natAbs < 2 ^ 53
    · exact .inl (hrm.symm.trans (hn.eq_of_lt hnsmall))
    · have := hn.le_natAbs (not_lt.mp hnsmall)
      omega
  · by_cases hnsmall : n.natAbs < 2 ^ 53
    · have hrn := hn.eq_of_lt hnsmall
      have := hm.le_natAbs (not_lt.mp hmsmall)
      omega
    · have htriangle := abs_sub_le m r n
      rw [abs_sub_comm r n] at htriangle
      have hmnear := hm.near
      have hnnear := hn.near
      exact .inr ⟨not_lt.mp hmsmall, not_lt.mp hnsmall, by omega⟩

end RoundsTo

/-- The rounded quotient leaves at most a half, and a half only if it is even. -/
theorem roundHalfEven_spec (a : ℕ) {b : ℕ} (hb : 0 < b) :
    2 * (b * roundHalfEven a b) ≤ 2 * a + b ∧ 2 * a ≤ 2 * (b * roundHalfEven a b) + b ∧
      (2 * (b * roundHalfEven a b) = 2 * a + b ∨ 2 * a = 2 * (b * roundHalfEven a b) + b →
        roundHalfEven a b % 2 = 0) := by
  have hsplit := Nat.div_add_mod a b
  have hrest := Nat.mod_lt a hb
  rw [roundHalfEven]
  generalize a / b = q at *
  generalize a % b = r at *
  have hstep := Nat.mul_add_one b q
  split_ifs <;> omega

/-- The mantissa and the exponent of the double of a natural number make up what it rounds to. -/
theorem exists_roundsTo_nat {a : ℕ} (ha : a ≠ 0) {e : ℤ} (he : e = a.log2 - 52) :
    ∃ c : ℕ, RoundsTo a c ∧ (roundHalfEven (scaled a 1 e).1 (scaled a 1 e).2 * 2 ^ e : ℚ) = c := by
  by_cases hlog : a.log2 < 52
  · have hscaled : scaled a 1 e = (a * 2 ^ (-e).toNat, 1) := by
      rw [scaled, if_neg (by omega)]
      rfl
    have hsmall : spacing a = 1 := spacing_of_lt (by
      rw [Int.natAbs_natCast]
      exact (Nat.log2_lt ha).mp (by omega))
    refine ⟨a, ⟨by rw [hsmall]; exact one_dvd _, by simp [hsmall], by simp [hsmall]⟩, ?_⟩
    have hwhole (x : ℕ) : roundHalfEven x 1 = x := by
      rw [roundHalfEven, Nat.mod_one, Nat.div_one]
      rfl
    have hpow : ((2 ^ (-e).toNat : ℕ) : ℚ) = (2 ^ e)⁻¹ := by
      rw [Nat.cast_pow, Nat.cast_ofNat, ← zpow_natCast, Int.toNat_of_nonneg (by omega), zpow_neg]
    rw [hscaled, hwhole, Nat.cast_mul, hpow, mul_assoc, inv_mul_cancel₀ (zpow_two_pos e).ne', mul_one]
  · obtain ⟨k, hk⟩ : ∃ k : ℕ, a.log2 = k + 52 := ⟨a.log2 - 52, by omega⟩
    obtain rfl : e = k := by omega
    have hscaled : scaled a 1 (k : ℤ) = (a, 2 ^ k) := by
      rw [scaled, if_pos (by omega), Int.toNat_natCast, Nat.one_mul]
      rfl
    have hspacing : spacing a = (2 ^ k : ℕ) := by
      rw [spacing, Int.natAbs_natCast, hk, Nat.add_sub_cancel]
      push_cast
      rfl
    obtain ⟨hlow, hhigh, htie⟩ := roundHalfEven_spec a (b := 2 ^ k) (by positivity)
    rw [hscaled]
    dsimp only
    generalize roundHalfEven a (2 ^ k) = q at *
    refine ⟨2 ^ k * q, ⟨?_, ?_, ?_⟩, ?_⟩
    · rw [hspacing]
      exact_mod_cast Nat.dvd_mul_right _ _
    · rw [hspacing]
      have habs := abs_cases ((a : ℤ) - (2 ^ k * q : ℕ))
      omega
    · rw [hspacing]
      intro h
      have habs := abs_cases ((a : ℤ) - (2 ^ k * q : ℕ))
      obtain ⟨i, rfl⟩ := Nat.dvd_of_mod_eq_zero (htie (by omega))
      exact ⟨i, by push_cast; ring⟩
    · push_cast
      rw [zpow_natCast, mul_comm]

theorem leadingExponent_nat {a : ℕ} (ha : a ≠ 0) : leadingExponent .double a 1 = a.log2 - 52 := by
  have hprecision : (Format.double.precision : ℤ) = 53 := rfl
  obtain ⟨hlow, hhigh⟩ := log2_bounds ha
  apply le_antisymm
  · apply leadingExponent_le ha one_ne_zero
    rw [Nat.cast_one, div_one, hprecision, show (a.log2 - 52 + 53 : ℤ) = a.log2 + 1 by omega]
    exact hhigh
  · apply le_leadingExponent ha one_ne_zero
    rw [Nat.cast_one, div_one, hprecision, show (a.log2 - 52 + 53 - 1 : ℤ) = a.log2 by omega]
    exact hlow

/-- The double of an integer amounts to what the integer rounds to. -/
theorem exists_roundsTo {n : ℤ} (hn : n.natAbs < 2 ^ 64) :
    ∃ r, RoundsTo n r ∧ (ofInt .double n).amount? = some (.rational r) := by
  by_cases hzero : n.natAbs = 0
  · obtain rfl := Int.natAbs_eq_zero.mp hzero
    refine ⟨0, ⟨dvd_zero _, by decide, fun _ => dvd_zero _⟩, ?_⟩
    have hvalue : (0 : ℚ) = signed false 0 0 := (signed_eq_zero_iff.mpr rfl).symm
    rw [Int.cast_zero, hvalue]
    rfl
  have hlog := log2_natAbs_lt (by decide) hn
  have he : larger (leadingExponent .double n.natAbs 1) Format.double.minExponent = n.natAbs.log2 - 52 := by
    have hmin : Format.double.minExponent = -1074 := rfl
    rw [leadingExponent_nat hzero, larger, if_neg (by omega)]
  have hmax : (n.natAbs.log2 - 52 : ℤ) < Format.double.maxExponent := by
    have htop : Format.double.maxExponent = 971 := rfl
    omega
  obtain ⟨c, hc, hvalue⟩ := exists_roundsTo_nat hzero rfl
  have hamount := amount?_ofRatio hzero he hmax (n < 0)
  rw [signed, hvalue] at hamount
  by_cases hneg : n < 0
  · rw [Int.ofNat_natAbs_of_nonpos hneg.le] at hc
    refine ⟨-c, neg_neg n ▸ hc.neg, ?_⟩
    rw [ofInt, hamount, if_pos (decide_eq_true hneg)]
    push_cast
    rfl
  · rw [Int.natAbs_of_nonneg (not_lt.mp hneg)] at hc
    refine ⟨c, hc, ?_⟩
    rw [ofInt, hamount, if_neg (by simpa using hneg)]
    rfl

theorem inFormat_ofInt (n : ℤ) : (ofInt .double n).InFormat .double :=
  inFormat_ofRatio (by decide) _ one_ne_zero

/-- The integers up to `2 ^ 53` are doubles. -/
theorem amount?_ofInt {n : ℤ} (hn : n.natAbs ≤ 2 ^ 53) :
    (ofInt .double n).amount? = some (.rational n) := by
  have hgrid : spacing n ∣ n := by
    rcases hn.lt_or_eq with hlt | heq
    · rw [spacing_of_lt hlt]
      exact one_dvd n
    · rw [spacing, heq, Nat.log2_two_pow, ← Int.dvd_natAbs, heq]
      decide
  obtain ⟨r, hr, hamount⟩ := exists_roundsTo (hn.trans_lt (by decide))
  rw [hamount, hr.unique (.self hgrid)]

/-- Two integers become equal doubles just when they round to the same one. -/
theorem numEq_ofInt_iff {m n : ℤ} (hm : m.natAbs < 2 ^ 64) (hn : n.natAbs < 2 ^ 64) :
    (ofInt .double m).numEq (ofInt .double n) = true ↔ ∃ r, RoundsTo m r ∧ RoundsTo n r := by
  obtain ⟨r, hr, hmr⟩ := exists_roundsTo hm
  obtain ⟨s, hs, hns⟩ := exists_roundsTo hn
  rw [numEq_iff (inFormat_ofInt m) (inFormat_ofInt n), hmr, hns]
  constructor
  · rintro ⟨a, hra, hsa⟩
    obtain rfl : s = r := by simpa using hsa.trans hra.symm
    exact ⟨s, hr, hs⟩
  · rintro ⟨t, hmt, hnt⟩
    rw [hr.unique hmt, hs.unique hnt]
    exact ⟨_, rfl, rfl⟩

end Binary
end Courier
