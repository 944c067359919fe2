import Courier.Keyed
import Courier.Proofs.Text.Order
import Mathlib.Data.List.Forall2
import Mathlib.Tactic.SplitIfs

/-! What setting and removing a key does to the entries, and to what is found under each key. -/
namespace Courier.Keyed

variable {α : Type}

theorem mem_of_get? {m : Keyed α} {key : String} {a : α} (h : get? m key = some a) :
    (key, a) ∈ m := by
  induction m with
  | nil => cases h
  | cons e m ih =>
    obtain ⟨k, b⟩ := e
    rw [get?] at h
    split_ifs at h with hk
    · cases h
      exact hk ▸ List.mem_cons_self
    · exact List.mem_cons_of_mem _ (ih h)

theorem mem_insert {m : Keyed α} {key : String} {a : α} {e : String × α}
    (h : e ∈ insert key a m) : e = (key, a) ∨ e ∈ m := by
  induction m with
  | nil => exact .inl (List.mem_singleton.mp h)
  | cons f m ih =>
    rw [insert] at h
    split_ifs at h
    · rcases List.mem_cons.mp h with h | h
      · exact .inl h
      · exact .inr (List.mem_cons_of_mem _ h)
    · exact List.mem_cons.mp h
    · rcases List.mem_cons.mp h with h | h
      · exact .inr (h ▸ List.mem_cons_self)
      · exact (ih h).imp_right (List.mem_cons_of_mem _)

theorem mem_overlay {m : Keyed α} {entries : List (String × α)} {e : String × α}
    (h : e ∈ overlay m entries) : e ∈ m ∨ e ∈ entries := by
  induction entries generalizing m with
  | nil => exact .inl h
  | cons f entries ih =>
    rcases ih h with h | h
    · rcases mem_insert h with rfl | h
      · exact .inr List.mem_cons_self
      · exact .inl h
    · exact .inr (List.mem_cons_of_mem f h)

theorem mem_of_mem_ofList {entries : List (String × α)} {e : String × α} (h : e ∈ ofList entries) :
    e ∈ entries :=
  (mem_overlay (m := []) h).resolve_left List.not_mem_nil

theorem mem_of_mem_erase {m : Keyed α} {key : String} {e : String × α} (h : e ∈ erase key m) :
    e ∈ m := by
  induction m with
  | nil => cases h
  | cons f m ih =>
    rw [erase] at h
    split_ifs at h
    · exact List.mem_cons_of_mem _ (ih h)
    · rcases List.mem_cons.mp h with h | h
      · exact h ▸ List.mem_cons_self
      · exact List.mem_cons_of_mem _ (ih h)

theorem mem_keys_iff {m : Keyed α} {key : String} : key ∈ keys m ↔ ∃ a, get? m key = some a := by
  induction m with
  | nil => simp [keys, get?]
  | cons e m ih =>
    obtain ⟨k, b⟩ := e
    rw [keys] at ih
    rw [get?, keys, List.map_cons, List.mem_cons, ih]
    split_ifs with hk
    · simp [hk]
    · simp [Ne.symm hk]

theorem contains_iff {m : Keyed α} {key : String} : contains m key = true ↔ key ∈ keys m := by
  rw [contains, Option.isSome_iff_exists, mem_keys_iff]

/-- Entries in one order, each key once, are known by what is found under the keys. -/
theorem ext_get? {m n : Keyed α} (hkeys : keys m = keys n) (hnodup : (keys m).Nodup)
    (h : ∀ key, get? m key = get? n key) : m = n := by
  induction m generalizing n with
  | nil => exact (List.map_eq_nil_iff.mp hkeys.symm).symm
  | cons e m ih =>
    obtain ⟨k, a⟩ := e
    cases n with
    | nil => cases hkeys
    | cons f n =>
      obtain ⟨j, b⟩ := f
      obtain ⟨rfl, hrest⟩ : k = j ∧ keys m = keys n := List.cons.inj hkeys
      obtain ⟨hk, hm⟩ := List.nodup_cons.mp hnodup
      have hab : a = b := by simpa [get?] using h k
      have hnone : get? m k = none ∧ get? n k = none := by
        constructor
        · exact Option.eq_none_iff_forall_ne_some.mpr fun c hc => hk (mem_keys_iff.mpr ⟨c, hc⟩)
        · apply Option.eq_none_iff_forall_ne_some.mpr
          intro c hc
          have hmem : k ∈ keys n := mem_keys_iff.mpr ⟨c, hc⟩
          exact hk (by rwa [← hrest] at hmem)
      have hmn : m = n := ih hrest hm fun key => by
        by_cases hkey : k = key
        · rw [← hkey, hnone.1, hnone.2]
        · simpa [get?, hkey] using h key
      rw [hab, hmn]

theorem get?_insert_self (m : Keyed α) (key : String) (a : α) :
    get? (insert key a m) key = some a := by
  induction m with
  | nil => exact if_pos rfl
  | cons e m ih =>
    obtain ⟨k, b⟩ := e
    rw [insert]
    split_ifs with hk
    · rw [get?, if_pos rfl]
    · rw [get?, if_pos rfl]
    · rw [get?, if_neg (Ne.symm hk), ih]

theorem get?_insert_of_ne (m : Keyed α) {key other : String} (h : key ≠ other) (a : α) :
    get? (insert key a m) other = get? m other := by
  induction m with
  | nil => exact if_neg h
  | cons e m ih =>
    obtain ⟨k, b⟩ := e
    rw [insert]
    split_ifs with hk
    · subst hk
      rw [get?, if_neg h, get?, if_neg h]
    · rw [get?, if_neg h]
    · rw [get?, ih, get?]

theorem get?_erase_self (m : Keyed α) (key : String) : get? (erase key m) key = none := by
  induction m with
  | nil => rfl
  | cons e m ih =>
    obtain ⟨k, b⟩ := e
    rw [erase]
    split_ifs with hk
    · exact ih
    · rw [get?, if_neg hk, ih]

theorem get?_erase_of_ne (m : Keyed α) {key other : String} (h : key ≠ other) :
    get? (erase key m) other = get? m other := by
  induction m with
  | nil => rfl
  | cons e m ih =>
    obtain ⟨k, b⟩ := e
    rw [erase]
    split_ifs with hk
    · rw [ih, get?, if_neg (hk ▸ h)]
    · rw [get?, ih, get?]

/-- Every key stands before the ones behind it. -/
def Sorted (m : Keyed α) : Prop := (keys m).Pairwise fun a b => Text.before a b = true

theorem sorted_cons {k : String} {a : α} {m : Keyed α} :
    Sorted ((k, a) :: m) ↔ (∀ j ∈ keys m, Text.before k j = true) ∧ Sorted m :=
  List.pairwise_cons

theorem mem_keys_insert {m : Keyed α} {key k : String} {a : α} :
    k ∈ keys (insert key a m) ↔ k = key ∨ k ∈ keys m := by
  induction m with
  | nil => simp [insert, keys]
  | cons e m ih =>
    obtain ⟨j, b⟩ := e
    rw [keys] at ih
    rw [insert]
    split_ifs with hj
    · subst hj
      simp [keys]
    · simp [keys]
    · simp only [keys, List.map_cons, List.mem_cons, ih]
      tauto

theorem Sorted.insert {m : Keyed α} (h : Sorted m) (key : String) (a : α) :
    Sorted (Keyed.insert key a m) := by
  induction m with
  | nil => exact List.pairwise_singleton _ _
  | cons e m ih =>
    obtain ⟨k, b⟩ := e
    obtain ⟨hk, hm⟩ := sorted_cons.mp h
    rw [Keyed.insert]
    split_ifs with heq hbefore
    · exact sorted_cons.mpr ⟨heq ▸ hk, hm⟩
    · refine sorted_cons.mpr ⟨fun j hj => ?_, h⟩
      rcases List.mem_cons.mp hj with rfl | hj
      · exact hbefore
      · exact Text.before_trans hbefore (hk j hj)
    · refine sorted_cons.mpr ⟨fun j hj => ?_, ih hm⟩
      rcases mem_keys_insert.mp hj with rfl | hj
      · exact Text.before_total heq (Bool.eq_false_iff.mpr hbefore)
      · exact hk j hj

theorem keys_erase (m : Keyed α) (key : String) : keys (erase key m) = (keys m).filter (· ≠ key) := by
  induction m with
  | nil => rfl
  | cons e m ih =>
    obtain ⟨k, a⟩ := e
    rw [keys] at ih
    rw [erase]
    split_ifs with hk
    · simp [keys, ih, hk]
    · simp [keys, ih, hk]

theorem Sorted.erase {m : Keyed α} (h : Sorted m) (key : String) : Sorted (Keyed.erase key m) := by
  rw [Sorted, keys_erase]
  exact List.Pairwise.filter _ h

theorem Sorted.overlay {m : Keyed α} (h : Sorted m) (entries : List (String × α)) :
    Sorted (Keyed.overlay m entries) := by
  induction entries generalizing m with
  | nil => exact h
  | cons e entries ih => exact ih (h.insert e.1 e.2)

theorem sorted_ofList (entries : List (String × α)) : Sorted (ofList entries) :=
  Sorted.overlay (m := []) List.Pairwise.nil entries

theorem insert_of_forall_before {m : Keyed α} {key : String} (h : ∀ k ∈ keys m, Text.before k key = true)
    (a : α) : insert key a m = m ++ [(key, a)] := by
  induction m with
  | nil => rfl
  | cons e m ih =>
    obtain ⟨k, b⟩ := e
    have hk := h k List.mem_cons_self
    rw [insert, if_neg (Text.ne_of_before hk).symm, if_neg (by rw [Text.not_before_of_before hk]; decide),
      ih fun j hj => h j (List.mem_cons_of_mem _ hj), List.cons_append]

/-- A sorted list of entries is the map it stands for. -/
theorem ofList_of_sorted {entries : List (String × α)} (h : Sorted entries) : ofList entries = entries := by
  have hfold (m : Keyed α) (hm : Sorted (m ++ entries)) :
      entries.foldl (fun m e => Keyed.insert e.1 e.2 m) m = m ++ entries := by
    clear h
    induction entries generalizing m with
    | nil => exact (List.append_nil m).symm
    | cons e entries ih =>
      have hlast : ∀ k ∈ keys m, Text.before k e.1 = true := by
        intro k hk
        rw [Sorted, keys, List.map_append, List.pairwise_append] at hm
        exact hm.2.2 k hk e.1 List.mem_cons_self
      rw [List.foldl_cons, insert_of_forall_before hlast, ih, List.append_assoc, List.singleton_append]
      rwa [List.append_assoc, List.singleton_append]
  exact hfold [] h

variable {β : Type} {R : α → β → Prop}

/-- The same keys in the same order, with related values under them. -/
def Related (R : α → β → Prop) : Keyed α → Keyed β → Prop :=
  List.Forall₂ fun e f => e.1 = f.1 ∧ R e.2 f.2

theorem related_iff_zip {m : Keyed α} {n : Keyed β} :
    Related R m n ↔ keys m = keys n ∧ ∀ e f, (e, f) ∈ m.zip n → R e.2 f.2 := by
  have hkeys : keys m = keys n ↔ List.Forall₂ (fun e f => e.1 = f.1) m n := by
    rw [keys, keys, ← List.forall₂_eq_eq_eq, List.forall₂_map_left_iff, List.forall₂_map_right_iff]
  rw [hkeys, Related, List.forall₂_iff_zip, List.forall₂_iff_zip]
  constructor
  · rintro ⟨hlen, h⟩
    exact ⟨⟨hlen, fun hef => (h hef).1⟩, fun e f hef => (h hef).2⟩
  · rintro ⟨⟨hlen, hkey⟩, hval⟩
    exact ⟨hlen, fun hef => ⟨hkey hef, hval _ _ hef⟩⟩

theorem Related.symm {S : β → α → Prop} (hRS : ∀ a b, R a b → S b a) {m : Keyed α} {n : Keyed β}
    (h : Related R m n) : Related S n m :=
  (List.Forall₂.flip h).imp fun _ _ hfe => ⟨hfe.1.symm, hRS _ _ hfe.2⟩

theorem Related.get? {m : Keyed α} {n : Keyed β} (h : Related R m n) (key : String) :
    Option.Rel R (Keyed.get? m key) (Keyed.get? n key) := by
  induction h with
  | nil => exact .none
  | @cons e f m n hef _ ih =>
    obtain ⟨k, a⟩ := e
    obtain ⟨k', b⟩ := f
    obtain ⟨rfl, hval⟩ := hef
    rw [Keyed.get?, Keyed.get?]
    split_ifs with hk
    · exact .some hval
    · exact ih

theorem Related.insert {m : Keyed α} {n : Keyed β} (h : Related R m n) (key : String) {a : α} {b : β}
    (hab : R a b) : Related R (Keyed.insert key a m) (Keyed.insert key b n) := by
  induction h with
  | nil => exact .cons ⟨rfl, hab⟩ .nil
  | @cons e f m n hef hmn ih =>
    obtain ⟨k, a'⟩ := e
    obtain ⟨k', b'⟩ := f
    obtain ⟨rfl, hval⟩ := hef
    rw [Keyed.insert, Keyed.insert]
    split_ifs with hk hbefore
    · exact .cons ⟨rfl, hab⟩ hmn
    · exact .cons ⟨rfl, hab⟩ (.cons ⟨rfl, hval⟩ hmn)
    · exact .cons ⟨rfl, hval⟩ ih

theorem Related.erase {m : Keyed α} {n : Keyed β} (h : Related R m n) (key : String) :
    Related R (Keyed.erase key m) (Keyed.erase key n) := by
  induction h with
  | nil => exact .nil
  | @cons e f m n hef hmn ih =>
    obtain ⟨k, a'⟩ := e
    obtain ⟨k', b'⟩ := f
    obtain ⟨rfl, hval⟩ := hef
    rw [Keyed.erase, Keyed.erase]
    split_ifs with hk
    · exact ih
    · exact .cons ⟨rfl, hval⟩ ih

theorem Related.ofList {m : List (String × α)} {n : List (String × β)} (h : Related R m n) :
    Related R (Keyed.ofList m) (Keyed.ofList n) := by
  have hfold (acc : Keyed α) (acc' : Keyed β) (hacc : Related R acc acc') :
      Related R (m.foldl (fun m e => Keyed.insert e.1 e.2 m) acc)
        (n.foldl (fun m e => Keyed.insert e.1 e.2 m) acc') := by
    induction h generalizing acc acc' with
    | nil => exact hacc
    | cons hef _ ih =>
      rw [List.foldl_cons, List.foldl_cons, hef.1]
      exact ih _ _ (hacc.insert _ hef.2)
  exact hfold [] [] .nil

end Courier.Keyed
