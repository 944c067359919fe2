import Courier.Text.Order
import Mathlib.Tactic.Common

/-! The order of texts is strict and total, and sorting keeps all texts. -/
namespace Courier.Text

theorem charsBefore_irrefl (as : List Char) : charsBefore as as = false := by
  induction as with
  | nil => rfl
  | cons a as ih => rw [charsBefore, if_pos rfl, ih]

theorem charsBefore_trans {as bs cs : List Char} (hab : charsBefore as bs = true)
    (hbc : charsBefore bs cs = true) : charsBefore as cs = true := by
  induction as generalizing bs cs with
  | nil =>
    cases cs with
    | nil => cases bs <;> cases hbc
    | cons c cs => rfl
  | cons a as ih =>
    cases bs with
    | nil => cases hab
    | cons b bs =>
      cases cs with
      | nil => cases hbc
      | cons c cs =>
        rw [charsBefore] at hab hbc ⊢
        by_cases hb : a = b
        · subst hb
          rw [if_pos rfl] at hab
          split_ifs at hbc ⊢ with hc
          · exact ih hab hbc
          · exact hbc
        · rw [if_neg hb, decide_eq_true_iff] at hab
          split_ifs at hbc with hc
          · subst hc
            rw [if_neg hb, decide_eq_true_iff]
            exact hab
          · rw [decide_eq_true_iff] at hbc
            rw [if_neg (by rintro rfl; omega), decide_eq_true_iff]
            omega

theorem charsBefore_total {as bs : List Char} (hne : as ≠ bs) (h : charsBefore as bs = false) :
    charsBefore bs as = true := by
  induction as generalizing bs with
  | nil =>
    cases bs with
    | nil => exact absurd rfl hne
    | cons b bs => cases h
  | cons a as ih =>
    cases bs with
    | nil => rfl
    | cons b bs =>
      rw [charsBefore] at h ⊢
      by_cases hb : a = b
      · subst hb
        rw [if_pos rfl] at h ⊢
        exact ih (fun heq => hne (heq ▸ rfl)) h
      · rw [if_neg hb, decide_eq_false_iff_not] at h
        rw [if_neg (Ne.symm hb), decide_eq_true_iff]
        have hne' : a.toNat ≠ b.toNat := fun heq => hb (Char.toNat_inj.mp heq)
        omega

theorem before_irrefl (a : String) : before a a = false := charsBefore_irrefl _

theorem before_trans {a b c : String} (hab : before a b = true) (hbc : before b c = true) :
    before a c = true := charsBefore_trans hab hbc

theorem before_total {a b : String} (hne : a ≠ b) (h : before a b = false) : before b a = true :=
  charsBefore_total (fun heq => hne (String.toList_inj.mp heq)) h

theorem ne_of_before {a b : String} (h : before a b = true) : a ≠ b := by
  rintro rfl
  rw [before_irrefl] at h
  cases h

theorem not_before_of_before {a b : String} (h : before a b = true) : before b a = false := by
  cases hba : before b a with
  | false => rfl
  | true => exact absurd rfl (ne_of_before (before_trans h hba))

theorem perm_insertSorted (s : String) (ts : List String) : (insertSorted s ts).Perm (s :: ts) := by
  induction ts with
  | nil => exact .refl _
  | cons t ts ih =>
    rw [insertSorted]
    split_ifs
    · exact .refl _
    · exact (ih.cons t).trans (.swap s t ts)

theorem perm_sort (ss : List String) : (sort ss).Perm ss := by
  induction ss with
  | nil => exact .refl _
  | cons s ss ih => exact (perm_insertSorted s _).trans (ih.cons s)

end Courier.Text
