import Courier.Text.Blank
import Mathlib.Data.List.TakeWhile
import Mathlib.Tactic.Common

/-! What is cut off a text: the blanks at either end, and a text that it starts with. -/
namespace Courier.Text

def Blank (cs : List Char) : Prop := ∀ c ∈ cs, isBlank c = true

theorem blank_nil : Blank [] := List.forall_mem_nil _

theorem Blank.reverse {cs : List Char} (h : Blank cs) : Blank cs.reverse :=
  fun c hc => h c (List.mem_reverse.mp hc)

/-- Characters with no blank at either end. -/
structure Trimmed (cs : List Char) : Prop where
  head : ∀ c ∈ cs.head?, isBlank c = false
  last : ∀ c ∈ cs.getLast?, isBlank c = false

theorem Trimmed.reverse {cs : List Char} (h : Trimmed cs) : Trimmed cs.reverse where
  head := fun c hc => h.last c (by rwa [List.head?_reverse] at hc)
  last := fun c hc => h.head c (by rwa [List.getLast?_reverse] at hc)

/-- Blanks in front are dropped, and blanks behind only if there is nothing else. -/
theorem dropWhile_isBlank {before cs after : List Char} (hbefore : Blank before) (hcs : Trimmed cs)
    (hne : cs ≠ []) : (before ++ (cs ++ after)).dropWhile isBlank = cs ++ after := by
  rw [List.dropWhile_append_of_pos hbefore]
  cases cs with
  | nil => exact absurd rfl hne
  | cons c cs =>
    have hc : ¬ isBlank c = true := by simp [hcs.head c rfl]
    exact List.dropWhile_cons_of_neg hc

theorem trimChars_append {before cs after : List Char} (hbefore : Blank before) (hcs : Trimmed cs)
    (hafter : Blank after) : trimChars (before ++ (cs ++ after)) = cs := by
  by_cases hne : cs = []
  · subst hne
    have hall : Blank (before ++ ([] ++ after)) := by
      intro c hc
      simp only [List.nil_append, List.mem_append] at hc
      exact hc.elim (hbefore c) (hafter c)
    rw [trimChars, List.dropWhile_eq_nil_iff.mpr hall]
    rfl
  · have hends : (after.reverse ++ (cs.reverse ++ [])).dropWhile isBlank = cs.reverse ++ [] :=
      dropWhile_isBlank hafter.reverse hcs.reverse (by simpa using hne)
    rw [List.append_nil] at hends
    rw [trimChars, dropWhile_isBlank hbefore hcs hne, dropEndWhile, List.reverse_append, hends,
      List.reverse_reverse]

/-- What is taken off is blank. -/
theorem exists_trimChars (cs : List Char) :
    ∃ before after, Blank before ∧ Blank after ∧ cs = before ++ (trimChars cs ++ after) := by
  set rest := cs.dropWhile isBlank with hrest
  refine ⟨cs.takeWhile isBlank, (rest.reverse.takeWhile isBlank).reverse, ?_, ?_, ?_⟩
  · exact fun c hc => List.mem_takeWhile_imp hc
  · exact fun c hc => List.mem_takeWhile_imp (List.mem_reverse.mp hc)
  · have hsplit := congrArg List.reverse
      (List.takeWhile_append_dropWhile (p := isBlank) (l := rest.reverse))
    rw [List.reverse_append, List.reverse_reverse] at hsplit
    rw [trimChars, dropEndWhile, ← hrest, hsplit, hrest, List.takeWhile_append_dropWhile]

/-- Nothing is left just of what is all blank. -/
theorem trimChars_eq_nil_iff {cs : List Char} : trimChars cs = [] ↔ Blank cs := by
  constructor
  · intro h
    obtain ⟨before, after, hbefore, hafter, hcs⟩ := exists_trimChars cs
    rw [h, List.nil_append] at hcs
    intro c hc
    rw [hcs, List.mem_append] at hc
    exact hc.elim (hbefore c) (hafter c)
  · intro h
    have htrim : trimChars (cs ++ ([] ++ [])) = [] := trimChars_append h ⟨nofun, nofun⟩ blank_nil
    rwa [List.nil_append, List.append_nil] at htrim

theorem trim_eq_empty_iff {s : String} : trim s = "" ↔ Blank s.toList := by
  rw [trim, ← trimChars_eq_nil_iff, String.ofList_eq_empty_iff]

theorem afterStart?_eq_some_iff {p cs rest : List Char} :
    afterStart? p cs = some rest ↔ cs = p ++ rest := by
  induction p generalizing cs with
  | nil => rw [afterStart?, Option.some.injEq, List.nil_append]
  | cons a p ih =>
    cases cs with
    | nil => simp [afterStart?]
    | cons c cs =>
      rw [afterStart?, List.cons_append, List.cons.injEq]
      split_ifs with hc
      · rw [ih, and_iff_right hc.symm]
      · simp [Ne.symm hc]

theorem startsWith_iff {p s : String} : startsWith p s = true ↔ ∃ rest, s = p ++ rest := by
  rw [startsWith, Option.isSome_iff_exists]
  constructor
  · rintro ⟨rest, h⟩
    refine ⟨String.ofList rest, String.toList_injective ?_⟩
    rw [afterStart?_eq_some_iff.mp h, String.toList_append, String.toList_ofList]
  · rintro ⟨rest, rfl⟩
    exact ⟨rest.toList, afterStart?_eq_some_iff.mpr String.toList_append⟩

end Courier.Text
