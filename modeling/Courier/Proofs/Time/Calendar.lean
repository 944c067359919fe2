import Courier.Time.Instant
import Mathlib.Tactic.Common

/-! The calendar: every day has a date that exists, and the date gives the day back. -/
namespace Courier.Civil

/-- A day of a cycle of 400 years by centuries, leap years, years and days: only the last year of four
has 366 days, and the last year of a century only in the last century. -/
structure InCycle (d c q k doy : Int) : Prop where
  century : 0 ≤ c ∧ c ≤ 3
  quad : 0 ≤ q ∧ q ≤ 24
  year : 0 ≤ k ∧ k ≤ 3
  day : 0 ≤ doy ∧ doy ≤ 365
  leap : doy = 365 → k = 3 ∧ (q ≠ 24 ∨ c = 3)
  eq : d = 36524 * c + 1461 * q + 365 * k + doy

theorem exists_inCycle {d : Int} (h0 : 0 ≤ d) (h1 : d < 146097) : ∃ c q k doy, InCycle d c q k doy := by
  obtain ⟨c, r, hc, hr, hd⟩ : ∃ c r : Int, (0 ≤ c ∧ c ≤ 3) ∧ (0 ≤ r ∧ r ≤ 36523 ∨ c = 3 ∧ r = 36524) ∧
      d = 36524 * c + r := by
    by_cases h : d = 146096
    · exact ⟨3, 36524, by omega, by omega, by omega⟩
    · exact ⟨d / 36524, d % 36524, by omega, by omega, by omega⟩
  obtain ⟨k, doy, hk, hdoy, hr'⟩ : ∃ k doy : Int, (0 ≤ k ∧ k ≤ 3) ∧
      (0 ≤ doy ∧ doy ≤ 364 ∨ k = 3 ∧ doy = 365) ∧ r % 1461 = 365 * k + doy := by
    by_cases h : r % 1461 = 1460
    · exact ⟨3, 365, by omega, by omega, by omega⟩
    · exact ⟨r % 1461 / 365, r % 1461 % 365, by omega, by omega, by omega⟩
  exact ⟨c, r / 1461, k, doy, hc, by omega, hk, by omega, by omega, by omega⟩

theorem InCycle.yearOfCycle {d c q k doy : Int} (h : InCycle d c q k doy) :
    (d - d / 1460 + d / 36524 - d / 146096) / 365 = 100 * c + 4 * q + k := by
  obtain ⟨hc, hq, hk, hday, hleap, hd⟩ := h
  have hcent : d / 36524 - d / 146096 = c := by
    by_cases hlast : q = 24 ∧ k = 3 ∧ doy = 365
    · omega
    · have hfirst : d / 36524 = c := by omega
      have hnone : d / 146096 = 0 := by omega
      omega
  -- Counting four years as 1460 days runs ahead by one only in the last year of four.
  obtain ⟨ahead, hquot, hahead⟩ : ∃ ahead : Int, d / 1460 = 25 * c + q + ahead ∧
      0 ≤ doy - ahead ∧ doy - ahead ≤ 364 := by
    by_cases h : 24 * c + q + 365 * k + doy < 1460
    · exact ⟨0, by omega, by omega⟩
    · exact ⟨1, by omega, by omega⟩
  have hnum : d - d / 1460 + d / 36524 - d / 146096 = 365 * (100 * c + 4 * q + k) + (doy - ahead) := by
    rw [hquot]
    generalize d / 36524 = a at *
    generalize d / 146096 = b at *
    omega
  rw [hnum]
  clear hleap hcent hquot hnum
  omega

/-- A day of a year that starts in March, by month and day. -/
structure InYear (doy m day : Int) : Prop where
  month : 0 ≤ m ∧ m ≤ 11
  day_pos : 1 ≤ day
  eq : doy = (153 * m + 2) / 5 + day - 1
  short : m = 1 ∨ m = 3 ∨ m = 6 ∨ m = 8 → day ≤ 30
  long : day ≤ 31
  last : m = 11 → day ≤ 29 ∧ (day = 29 → doy = 365)

theorem inYear {doy : Int} (h0 : 0 ≤ doy) (h1 : doy ≤ 365) :
    InYear doy ((5 * doy + 2) / 153) (doy - (153 * ((5 * doy + 2) / 153) + 2) / 5 + 1) := by
  have hm : 0 ≤ (5 * doy + 2) / 153 ∧ (5 * doy + 2) / 153 ≤ 11 := by omega
  refine ⟨hm, ?_, by omega, ?_, ?_, ?_⟩
  · omega
  · omega
  · omega
  · omega

theorem InCycle.dayOfYear {d c q k doy : Int} (h : InCycle d c q k doy) {y : Int}
    (hy : y = 100 * c + 4 * q + k) : d - (365 * y + y / 4 - y / 100) = doy := by
  obtain ⟨hc, hq, hk, hday, hleap, hd⟩ := h
  have hfour : y / 4 = 25 * c + q := by omega
  have hundred : y / 100 = c := by omega
  omega

/-- The day number of a date whose year and month are counted from March. -/
theorem dayNumber_fromMarch {cycle y m day : Int} (hy : 0 ≤ y ∧ y < 400) (hm : 0 ≤ m ∧ m ≤ 11)
    (hday : 1 ≤ day) {month : Int} (hmonth : month = if m < 10 then m + 3 else m - 9) :
    dayNumber (y + cycle * 400 + if month ≤ 2 then 1 else 0) month.toNat day.toNat =
      cycle * 146097 + (y * 365 + y / 4 - y / 100 + ((153 * m + 2) / 5 + day - 1)) - 719468 := by
  have hcycle : (y + cycle * 400) / 400 = cycle := by omega
  have hrest : y + cycle * 400 - cycle * 400 = y := by omega
  by_cases hm' : m < 10
  · rw [if_pos hm'] at hmonth
    have hlate : ¬ month ≤ 2 := by omega
    have hlate' : ¬ month.toNat ≤ 2 := by omega
    have hmarch : (month.toNat : Int) - 3 = m := by omega
    rw [dayNumber, if_neg hlate, if_neg hlate', if_pos (by omega), Int.add_zero, hcycle, hrest, hmarch]
    omega
  · rw [if_neg hm'] at hmonth
    have hearly : month ≤ 2 := by omega
    have hearly' : month.toNat ≤ 2 := by omega
    have hmarch : (month.toNat : Int) + 9 = m := by omega
    have hone : y + cycle * 400 + 1 - 1 = y + cycle * 400 := by omega
    rw [dayNumber, if_pos hearly, if_pos hearly', if_neg (by omega), hone, hcycle, hrest, hmarch]
    omega

/-- February has its last day where the year before, counted from March, has 366. -/
theorem isLeap_of_inCycle {d c q k : Int} (h : InCycle d c q k 365) (cycle : Int) :
    isLeap (100 * c + 4 * q + k + cycle * 400 + 1) = true := by
  obtain ⟨hk, hlast⟩ := h.leap rfl
  have hc := h.century
  have hq := h.quad
  have hfour : (100 * c + 4 * q + k + cycle * 400 + 1) % 4 = 0 := by omega
  have hcentury : (100 * c + 4 * q + k + cycle * 400 + 1) % 100 ≠ 0 ∨
      (100 * c + 4 * q + k + cycle * 400 + 1) % 400 = 0 := by omega
  simp only [isLeap, hfour, decide_true, Bool.true_and, Bool.or_eq_true, decide_eq_true_eq]
  exact hcentury

/-- The parts of a date that exists, with its day number. -/
structure IsDate (n year : Int) (month day : Nat) : Prop where
  number : dayNumber year month day = n
  month_pos : 1 ≤ month
  month_le : month ≤ 12
  day_pos : 1 ≤ day
  day_le : day ≤ monthLength year month

theorem isDate_ofDayNumber (n : Int) :
    IsDate n (ofDayNumber n).1 (ofDayNumber n).2.1 (ofDayNumber n).2.2 := by
  obtain ⟨c, q, k, doy, hcycle⟩ := exists_inCycle (d := (n + 719468) - (n + 719468) / 146097 * 146097)
    (by omega) (by omega)
  have hyear := hcycle.yearOfCycle
  have hdoy := hcycle.dayOfYear rfl
  have hin := inYear hcycle.day.1 hcycle.day.2
  rw [ofDayNumber]
  simp only [hyear, hdoy]
  generalize (n + 719468) / 146097 = cycle at *
  clear hyear hdoy
  generalize (5 * doy + 2) / 153 = m at *
  generalize doy - (153 * m + 2) / 5 + 1 = day at *
  obtain ⟨hm, hpos, heq, hshort, hlong, hlast⟩ := hin
  have hy : 0 ≤ 100 * c + 4 * q + k ∧ 100 * c + 4 * q + k < 400 := by
    obtain ⟨hc, hq, hk, -⟩ := hcycle
    omega
  constructor
  · have hdoy := hcycle.dayOfYear rfl
    rw [dayNumber_fromMarch hy hm hpos rfl, ← heq]
    clear hshort hlong hlast hcycle heq
    omega
  · split_ifs <;> omega
  · split_ifs <;> omega
  · omega
  · rw [monthLength]
    by_cases hfeb : m = 11
    · obtain ⟨hday, hlastDay⟩ := hlast hfeb
      subst hfeb
      rw [if_pos (by decide)]
      by_cases hlong' : day = 29
      · have hlastOfYear := hlastDay hlong'
        rw [hlastOfYear] at hcycle
        calc day.toNat ≤ 29 := by omega
          _ = _ := (if_pos (isLeap_of_inCycle hcycle cycle)).symm
      · split_ifs <;> omega
    · rw [if_neg (by split_ifs <;> omega)]
      split_ifs <;> omega

end Courier.Civil
