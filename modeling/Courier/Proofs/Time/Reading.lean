import Courier.Proofs.Number.Numeral
import Courier.Proofs.Time.Calendar
import Mathlib.Data.List.TakeWhile

/-! The compact form of an instant reads back as the instant, up to the seconds of its zone's offset,
which that form does not show. -/
namespace Courier

theorem Civil.isValid_iff {c : Civil} : c.isValid = true ↔ 1 ≤ c.month ∧ c.month ≤ 12 ∧ 1 ≤ c.day ∧
    c.day ≤ monthLength c.year c.month ∧ c.hour < 24 ∧ c.minute < 60 ∧ c.second < 60 := by
  simp [isValid, and_assoc]

theorem Civil.monthLength_le (year : ℤ) (month : ℕ) : monthLength year month ≤ 31 := by
  rw [monthLength]
  split_ifs <;> omega

namespace Instant

/-- The instant that its compact form tells: offsets are cut to whole minutes, the time of day stays. -/
def reread (t : Instant) : Instant :=
  if t.zone.offset = 0 then t.toUtc
  else
    let shown := 60 * t.zone.offset.tdiv 60
    ⟨t.seconds + t.zone.offset - shown, t.nanos, .fixed shown⟩

/-- What is shown stays. -/
theorem civil_reread (t : Instant) : t.reread.civil = t.civil := by
  unfold reread
  split_ifs with hoffset
  · have hutc : t.toUtc.zone.offset = t.zone.offset := hoffset.symm
    rw [civil, hutc]
    rfl
  · simp only [civil, Zone.offset, sub_add_cancel]

theorem isWithinDay_reread {t : Instant} (h : t.zone.isWithinDay = true) :
    t.reread.zone.isWithinDay = true := by
  unfold reread
  split_ifs with hoffset
  · rfl
  · have hoffset : t.zone.offset.natAbs < 86400 := of_decide_eq_true h
    apply decide_eq_true
    rw [Zone.offset, Int.natAbs_mul, Int.natAbs_tdiv]
    exact (Nat.mul_div_le _ 60).trans_lt hoffset

theorem nanos_reread (t : Instant) : t.reread.nanos = t.nanos := by
  unfold reread
  split_ifs <;> rfl

theorem isDigit_iff {c : Char} : c.isDigit = true ↔ '0' ≤ c ∧ c ≤ '9' := by
  change ('0' ≤ c && c ≤ '9') = true ↔ _
  rw [Bool.and_eq_true, decide_eq_true_iff, decide_eq_true_iff]

theorem digitValue_of_isDigit {c : Char} (h : c.isDigit = true) : digitValue c = some (c.toNat - 48) :=
  if_pos (isDigit_iff.mp h)

theorem isSome_digitValue (c : Char) : (digitValue c).isSome = c.isDigit := by
  rw [Bool.eq_iff_iff, isDigit_iff, digitValue]
  split_ifs with h
  · exact iff_of_true rfl h
  · exact iff_of_false Bool.false_ne_true h

theorem takeDigits_append {ds : List Char} (hds : ∀ c ∈ ds, c.isDigit = true) (rest : List Char) :
    ∀ acc, takeDigits ds.length acc (ds ++ rest) = some (Nat.ofDigitChars 10 ds acc, rest) := by
  induction ds with
  | nil =>
    intro acc
    rfl
  | cons c ds ih =>
    intro acc
    rw [List.length_cons, List.cons_append, takeDigits, digitValue_of_isDigit (hds c List.mem_cons_self)]
    simp only [ih fun d hd => hds d (List.mem_cons_of_mem _ hd)]
    rw [Nat.ofDigitChars_cons, Nat.mul_comm]
    rfl

/-- A number padded to a width that it fits has exactly that many digits. -/
theorem padded_spec {width n : ℕ} (hwidth : 0 < width) (hn : n < 10 ^ width) :
    (padded width n).toList.length = width ∧ (∀ c ∈ (padded width n).toList, c.isDigit = true) ∧
      Nat.ofDigitChars 10 (padded width n).toList 0 = n := by
  have hlength := (Nat.length_toDigits_le_iff (b := 10) (by decide) hwidth).mpr hn
  rw [padded, String.toList_ofList]
  refine ⟨?_, ?_, ?_⟩
  · rw [List.length_append, List.length_replicate]
    omega
  · exact Numeral.isDigit_append (Numeral.isDigit_zeros _) (Numeral.isDigit_toDigits n)
  · rw [Nat.ofDigitChars_append, Nat.ofDigitChars_replicate_zero, Nat.mul_zero,
      Nat.ofDigitChars_ten_toDigits]

theorem takeDigits_padded {width n : ℕ} (hwidth : 0 < width) (hn : n < 10 ^ width) (rest : List Char) :
    takeDigits width 0 ((padded width n).toList ++ rest) = some (n, rest) := by
  obtain ⟨hlength, hdigits, hvalue⟩ := padded_spec hwidth hn
  have h := takeDigits_append hdigits rest 0
  rwa [hlength, hvalue] at h

/-- Zeros at the end of digits are dropped, and nothing else. -/
theorem exists_replicate_append (ds : List Char) :
    ∃ k, (ds.reverse.dropWhile (· = '0')).reverse ++ List.replicate k '0' = ds := by
  refine ⟨(ds.reverse.takeWhile (· = '0')).length, ?_⟩
  have hzeros : ds.reverse.takeWhile (· = '0') =
      List.replicate (ds.reverse.takeWhile (· = '0')).length '0' := by
    refine List.eq_replicate_iff.mpr ⟨rfl, fun c hc => ?_⟩
    simpa using List.mem_takeWhile_imp hc
  rw [← List.reverse_replicate, ← hzeros, ← List.reverse_append, List.takeWhile_append_dropWhile,
    List.reverse_reverse]

/-- A fraction without its trailing zeros still tells its nine digits. -/
theorem readFraction_fraction {nanos : ℕ} (h : nanos < 10 ^ 9) {rest : List Char}
    (hrest : ∀ c ∈ rest.head?, c.isDigit = false ∧ c ≠ '.') :
    readFraction ((fraction nanos).toList ++ rest) = some (nanos, rest) := by
  rw [fraction]
  split_ifs with hzero
  · rw [hzero]
    change readFraction rest = _
    rw [readFraction]
    intro cs heq
    rw [heq] at hrest
    exact (hrest '.' rfl).2 rfl
  · obtain ⟨hlength, hdigits, hvalue⟩ := padded_spec (by decide) h
    obtain ⟨k, hk⟩ := exists_replicate_append (padded 9 nanos).toList
    simp only [String.toList_append, String.toList_ofList]
    generalize (padded 9 nanos).toList = ds at *
    generalize (ds.reverse.dropWhile (· = '0')).reverse = shown at *
    have hshown : ∀ c ∈ shown, c.isDigit = true := fun c hc =>
      hdigits c (hk ▸ List.mem_append_left _ hc)
    have hne : shown ≠ [] := by
      rintro rfl
      rw [← hk, List.nil_append, Nat.ofDigitChars_replicate_zero, Nat.mul_zero] at hvalue
      exact hzero hvalue.symm
    have hnanos : nanosOf shown = nanos := by
      have htake : (shown ++ List.replicate 9 '0').take 9 = ds := by
        have hsum := congrArg List.length hk
        rw [List.length_append, List.length_replicate] at hsum
        rw [List.take_append, List.take_of_length_le (by omega), List.take_replicate, ← hk]
        congr 2
        omega
      rw [nanosOf, htake, ← hvalue]
      exact Numeral.digitsValue_eq ds
    have hspan : (shown ++ rest).takeWhile (fun c => (digitValue c).isSome) = shown := by
      simp only [isSome_digitValue]
      exact Numeral.takeWhile_append_stop hshown fun c hc => (hrest c hc).1
    change readFraction ('.' :: (shown ++ rest)) = _
    rw [readFraction]
    simp only [hspan, List.isEmpty_iff, hne, if_false, hnanos, List.drop_left]

theorem readZone_signed {sign : Char} (hsign : sign = '+' ∨ sign = '-') {hours minutes : ℕ}
    (hhours : hours < 24) (hminutes : minutes < 60) :
    readZone (sign :: ((padded 2 hours).toList ++ ':' :: (padded 2 minutes).toList)) =
      some (.fixed (if sign = '-' then -(hours * 3600 + minutes * 60) else hours * 3600 + minutes * 60)) := by
  have htake := takeDigits_padded (n := hours) (by decide : 0 < 2) (by omega)
  have htake' := takeDigits_padded (n := minutes) (by decide : 0 < 2) (by omega) []
  rw [List.append_nil] at htake'
  rw [readZone, if_pos hsign]
  · simp [htake, htake', expect, hhours, hminutes]
  · rintro rfl
    exact fun _ => by simp at hsign

theorem tdiv_sixty_neg {i : ℤ} (h : i < 0) : i.tdiv 60 = -(-i / 60) := by
  rw [← Int.tdiv_eq_ediv_of_nonneg (by omega), Int.neg_tdiv, Int.neg_neg]

theorem readZone_offsetText {offset : ℤ} (h : offset.natAbs < 86400) :
    readZone (offsetText ":" offset).toList = some (.fixed (60 * offset.tdiv 60)) := by
  have hhours : offset.natAbs / 60 / 60 < 24 := by omega
  have hminutes : offset.natAbs / 60 % 60 < 60 := by omega
  have hchars (sign : String) (hours minutes : ℕ) :
      (sign ++ padded 2 hours ++ ":" ++ padded 2 minutes).toList =
        sign.toList ++ ((padded 2 hours).toList ++ ':' :: (padded 2 minutes).toList) := by
    simp only [String.toList_append, List.append_assoc]
    rfl
  have hminus : "-".toList = ['-'] := rfl
  have hplus : "+".toList = ['+'] := rfl
  rw [offsetText, hchars]
  -- an offset of less than a minute below zero is shown as +00:00
  split_ifs with hsign
  · have hvalue : -((offset.natAbs / 60 / 60 : ℕ) * 3600 + (offset.natAbs / 60 % 60 : ℕ) * 60 : ℤ) =
        60 * offset.tdiv 60 := by
      rw [tdiv_sixty_neg (by omega)]
      omega
    rw [hminus, List.singleton_append, readZone_signed (.inr rfl) hhours hminutes, if_pos rfl, hvalue]
  · have hvalue : ((offset.natAbs / 60 / 60 : ℕ) * 3600 + (offset.natAbs / 60 % 60 : ℕ) * 60 : ℤ) =
        60 * offset.tdiv 60 := by
      by_cases hneg : offset < 0
      · rw [tdiv_sixty_neg hneg]
        omega
      · rw [Int.tdiv_eq_ediv_of_nonneg (by omega)]
        omega
    rw [hplus, List.singleton_append, readZone_signed (.inl rfl) hhours hminutes, if_neg (by decide), hvalue]

/-- Seconds of a day by hours, minutes and seconds, and the whole days in front. -/
theorem civil_spec (t : Instant) (zone : Zone) :
    t.civil.isValid = true ∧
      ofCivil t.civil t.nanos zone = ⟨t.seconds + t.zone.offset - zone.offset, t.nanos, zone⟩ := by
  obtain ⟨hnumber, hmonth, hmonth', hday, hday'⟩ :=
    Civil.isDate_ofDayNumber ((t.seconds + t.zone.offset) / 86400)
  have hlocal : 0 ≤ t.seconds + t.zone.offset - (t.seconds + t.zone.offset) / 86400 * 86400 ∧
      t.seconds + t.zone.offset - (t.seconds + t.zone.offset) / 86400 * 86400 < 86400 := by omega
  constructor
  · rw [Civil.isValid_iff]
    exact ⟨hmonth, hmonth', hday, hday', by simp only [civil]; omega, by simp only [civil]; omega,
      by simp only [civil]; omega⟩
  · simp only [ofCivil, civil, hnumber]
    congr 1
    omega

/-- What the form shows of the zone, and how that reads. -/
theorem exists_zoneText {t : Instant} (hzone : t.zone.isWithinDay = true) :
    ∃ (zone : Zone) (zoneText : String),
      (if t.zone.offset = 0 then "Z" else offsetText ":" t.zone.offset) = zoneText ∧
      readZone zoneText.toList = some zone ∧
      (∀ c ∈ zoneText.toList.head?, c.isDigit = false ∧ c ≠ '.') ∧
      t.reread = ⟨t.seconds + t.zone.offset - zone.offset, t.nanos, zone⟩ := by
  by_cases hoffset : t.zone.offset = 0
  · refine ⟨.utc, "Z", if_pos hoffset, rfl, ?_, ?_⟩
    · rintro c ⟨⟩
      decide
    · rw [reread, if_pos hoffset, hoffset, toUtc, Zone.offset]
      simp
  · refine ⟨_, _, if_neg hoffset, readZone_offsetText (of_decide_eq_true hzone), ?_, ?_⟩
    · intro c hc
      rw [offsetText, String.append_assoc, String.append_assoc, String.toList_append] at hc
      split_ifs at hc
      · cases hc
        decide
      · cases hc
        decide
    · rw [reread, if_neg hoffset]
      rfl

/-- The compact form reads back as the instant it tells. -/
theorem ofText?_text {t : Instant} (hnanos : t.nanos < 10 ^ 9) (hyear : t.hasFourDigitYear = true)
    (hzone : t.zone.isWithinDay = true) : ofText? t.text = some t.reread := by
  obtain ⟨zone, zoneText, htext, hread, hhead, hreread⟩ := exists_zoneText hzone
  obtain ⟨hvalid, hcivil⟩ := civil_spec t zone
  obtain ⟨hyearLow, hyearHigh⟩ : 0 ≤ t.civil.year ∧ t.civil.year ≤ 9999 := by
    simpa [hasFourDigitYear] using hyear
  obtain ⟨-, hmonth, -, hday, hhour, hminute, hsecond⟩ := Civil.isValid_iff.mp hvalid
  have hday' := Civil.monthLength_le t.civil.year t.civil.month
  have hyearNat : (t.civil.year.toNat : ℤ) = t.civil.year := Int.toNat_of_nonneg hyearLow
  have hchars : t.text.toList = (padded 4 t.civil.year.toNat).toList ++ '-' ::
      ((padded 2 t.civil.month).toList ++ '-' :: ((padded 2 t.civil.day).toList ++ 'T' ::
        ((padded 2 t.civil.hour).toList ++ ':' :: ((padded 2 t.civil.minute).toList ++ ':' ::
          ((padded 2 t.civil.second).toList ++ ((fraction t.nanos).toList ++ zoneText.toList)))))) := by
    have hdash (cs : List Char) : "-".toList ++ cs = '-' :: cs := rfl
    have hmark (cs : List Char) : "T".toList ++ cs = 'T' :: cs := rfl
    have hcolon (cs : List Char) : ":".toList ++ cs = ':' :: cs := rfl
    rw [text, htext]
    simp only [String.toList_append, List.append_assoc, List.cons_append, hdash, hmark, hcolon]
  have htwo {n : ℕ} (hn : n < 100) := takeDigits_padded (by decide : 0 < 2) hn
  have hexpect (d : Char) (cs : List Char) : expect d (d :: cs) = some cs := if_pos rfl
  rw [ofText?, hchars, hreread, ← hcivil]
  generalize t.civil = c at *
  -- each part of the form is taken off the front in turn
  refine Option.bind_eq_some_iff.mpr ⟨_, takeDigits_padded (by decide) (by omega) _, ?_⟩
  refine Option.bind_eq_some_iff.mpr ⟨_, hexpect _ _, ?_⟩
  refine Option.bind_eq_some_iff.mpr ⟨_, htwo (by omega) _, ?_⟩
  refine Option.bind_eq_some_iff.mpr ⟨_, hexpect _ _, ?_⟩
  refine Option.bind_eq_some_iff.mpr ⟨_, htwo (by omega) _, ?_⟩
  refine Option.bind_eq_some_iff.mpr ⟨_, hexpect _ _, ?_⟩
  refine Option.bind_eq_some_iff.mpr ⟨_, htwo (by omega) _, ?_⟩
  refine Option.bind_eq_some_iff.mpr ⟨_, hexpect _ _, ?_⟩
  refine Option.bind_eq_some_iff.mpr ⟨_, htwo (by omega) _, ?_⟩
  refine Option.bind_eq_some_iff.mpr ⟨_, hexpect _ _, ?_⟩
  refine Option.bind_eq_some_iff.mpr ⟨_, htwo (by omega) _, ?_⟩
  refine Option.bind_eq_some_iff.mpr ⟨_, readFraction_fraction hnanos hhead, ?_⟩
  refine Option.bind_eq_some_iff.mpr ⟨_, hread, ?_⟩
  simp only [hyearNat]
  exact if_pos hvalid

end Instant
end Courier
