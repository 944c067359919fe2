import Courier.Proofs.Value.Carried
import Courier.Proofs.Value.Equality
import Courier.Schema.Basic

/-! Schemas and the types of numbers.
A payload passes or fails a schema whatever the types of its numbers, as long as they amount to the same.
Infinities are the exception: where a whole number is asked for, an infinity of single precision passes
and one of double precision does not. -/
namespace Courier

open Value

namespace Typ

/-- Somewhere in two values a whole number is asked for, and the first one has an infinity of single
precision where the second one has the same infinity in double precision. -/
inductive Splits : Typ → Value → Value → Prop
  | int (s : Bool) : Splits .int (.single (.infinite s)) (.float (.infinite s))
  | item {t : Typ} {vs ws : List Value} {v w : Value} (hmem : (v, w) ∈ vs.zip ws) (h : Splits t v w) :
      Splits (.slice t) (.list vs) (.list ws)

variable {t : Typ} {v w : Value}

theorem Splits.ne (h : Splits t v w) : v ≠ w := by
  induction h with
  | int s => exact nofun
  | item hmem _ ih =>
    intro heq
    obtain rfl := Value.list.inj heq
    exact ih (List.forall₂_zip (R := Eq) (List.forall₂_refl _) hmem)

theorem firstMismatch_eq_none_iff {check : Value → Option Mismatch} {vs : List Value} (i : ℕ) :
    firstMismatch check i vs = none ↔ ∀ v ∈ vs, check v = none := by
  induction vs generalizing i with
  | nil => simp [firstMismatch]
  | cons v vs ih =>
    rw [firstMismatch, List.forall_mem_cons, ← ih (i + 1)]
    cases check v <;> simp

theorem check_list_eq_none_iff {vs : List Value} :
    (slice t).check (.list vs) = none ↔ ∀ v ∈ vs, t.check v = none := by
  rw [check, elements?]
  exact firstMismatch_eq_none_iff 0

/-- Only the type of any value and the type of lists let a list pass. -/
theorem of_check_list {vs : List Value} (h : t.check (.list vs) = none) :
    t = .any ∨ ∃ e, t = .slice e := by
  cases t with
  | any => exact .inl rfl
  | slice e => exact .inr ⟨e, rfl⟩
  | _ => simp [check, scalarAccepts, acceptsInt, isNumber] at h

theorem of_check_record {fs : List (String × Value)} (h : t.check (.record fs) = none) :
    t = .any ∨ t = .object := by
  cases t with
  | any => exact .inl rfl
  | object => exact .inr rfl
  | _ => simp [check, scalarAccepts, acceptsInt, isNumber, elements?] at h

theorem of_check_number {a : Amount} (ha : v.amount? = some a) (h : t.check v = none) :
    t = .any ∨ t = .float ∨ t = .int := by
  cases t with
  | any => exact .inl rfl
  | float => exact .inr (.inl rfl)
  | int => exact .inr (.inr rfl)
  | _ =>
    cases v with
    | int | float | single => simp [check, scalarAccepts, elements?] at h
    | _ => cases ha

theorem check_int_eq_none_iff : Typ.int.check v = none ↔ acceptsInt v = true := by
  cases h : acceptsInt v <;> simp [check, scalarAccepts, h]

theorem check_float_of_number {a : Amount} (ha : v.amount? = some a) : Typ.float.check v = none := by
  cases v with
  | int | float | single => rfl
  | _ => cases ha

/-- What passes for a whole number: what amounts to an integer, and an infinity of single precision. -/
theorem acceptsInt_iff {a : Amount} (hv : v.Valid) (ha : v.amount? = some a) :
    acceptsInt v = true ↔ (∃ n : ℤ, a = .rational n) ∨ ∃ s, v = .single (.infinite s) := by
  cases hv with
  | int k h =>
    obtain rfl := Option.some.inj ha
    simp [acceptsInt]
  | @float x h =>
    replace ha : x.amount? = some a := ha
    simp [acceptsInt, Binary.isWhole_iff h, ha]
  | @single x h =>
    replace ha : x.amount? = some a := ha
    rw [acceptsInt, Bool.or_eq_true, Binary.isWhole_iff h, ha]
    cases x with
    | nan => cases ha
    | infinite s => simp [Binary.isFinite, Binary.isNaN]
    | finite s m e => simp [Binary.isFinite]
  | _ => cases ha

/-- Every item of the second of two lists has a counterpart. -/
theorem exists_mem_zip {vs ws : List Value} (hlen : vs.length = ws.length) (hw : w ∈ ws) :
    ∃ v, (v, w) ∈ vs.zip ws := by
  rw [← List.map_snd_zip hlen.ge] at hw
  obtain ⟨⟨v, w⟩, hmem, rfl⟩ := List.mem_map.mp hw
  exact ⟨v, hmem⟩

/-- What passes in one payload fails in the other just where an infinity loses its single precision. -/
theorem check_of_alike (hv : v.Valid) (hw : w.Valid) (h : Alike SameAmount v w)
    (hcheck : t.check v = none) : t.check w = none ↔ ¬ t.Splits v w := by
  induction h generalizing t with
  | refl v => exact iff_of_true hcheck fun hsplit => hsplit.ne rfl
  | @number v w h =>
    obtain ⟨a, hva, hwa⟩ := h
    rcases of_check_number hva hcheck with rfl | rfl | rfl
    · exact iff_of_true rfl nofun
    · exact iff_of_true (check_float_of_number hwa) nofun
    · rw [check_int_eq_none_iff, acceptsInt_iff hv hva] at hcheck
      rw [check_int_eq_none_iff, acceptsInt_iff hw hwa]
      rcases hcheck with ⟨n, rfl⟩ | ⟨s, rfl⟩
      · refine iff_of_true (.inl ⟨n, rfl⟩) fun hsplit => ?_
        cases hsplit
        cases hva
      · -- of the numbers that are infinite, only a double is left out
        obtain rfl : .infinite s = a := Option.some.inj hva
        cases hw with
        | int k h => cases hwa
        | @float x h =>
          obtain rfl : x = .infinite s := Binary.eq_infinite hwa
          refine iff_of_false ?_ fun hnot => hnot (.int s)
          rintro (⟨n, hn⟩ | ⟨u, hu⟩)
          · cases hn
          · cases hu
        | @single x h =>
          obtain rfl : x = .infinite s := Binary.eq_infinite hwa
          exact iff_of_true (.inr ⟨s, rfl⟩) nofun
        | _ => cases hwa
  | @list vs ws hlen h ih =>
    cases hv with
    | list hvs =>
      cases hw with
      | list hws =>
        rcases of_check_list hcheck with rfl | ⟨e, rfl⟩
        · exact iff_of_true rfl nofun
        · rw [check_list_eq_none_iff] at hcheck ⊢
          have hitem {v w : Value} (hmem : (v, w) ∈ vs.zip ws) : e.check w = none ↔ ¬ e.Splits v w :=
            ih v w hmem (hvs v (List.of_mem_zip hmem).1) (hws w (List.of_mem_zip hmem).2)
              (hcheck v (List.of_mem_zip hmem).1)
          constructor
          · rintro hall (_ | ⟨hmem, hsplit⟩)
            exact (hitem hmem).mp (hall _ (List.of_mem_zip hmem).2) hsplit
          · intro hnot w hw
            obtain ⟨v, hmem⟩ := exists_mem_zip hlen hw
            exact (hitem hmem).mpr fun hsplit => hnot (.item hmem hsplit)
  | record hkeys h ih =>
    rcases of_check_record hcheck with rfl | rfl
    · exact iff_of_true rfl nofun
    · exact iff_of_true rfl nofun

end Typ

namespace Schema

variable {s : Schema} {p q : Keyed Value}

/-- Some field of a schema splits its values in two payloads. -/
def Splits (s : Schema) (p q : Keyed Value) : Prop :=
  ∃ f ∈ s, ∃ v w, Keyed.get? p (splitOptional f.1).1 = some v ∧
    Keyed.get? q (splitOptional f.1).1 = some w ∧ f.2.Splits v w

theorem fieldError?_of_missing {key : String} (t : Typ) (h : Keyed.get? p (splitOptional key).1 = none) :
    fieldError? p key t =
      if (splitOptional key).2 then none else some ⟨(splitOptional key).1, .required⟩ := by
  simp only [fieldError?, h]

theorem fieldError?_of_found {key : String} (t : Typ) {v : Value}
    (h : Keyed.get? p (splitOptional key).1 = some v) :
    fieldError? p key t = (t.check v).map fun m => ⟨(splitOptional key).1, .mismatch m v⟩ := by
  simp only [fieldError?, h]

/-- A field is missing in both payloads or holds values that are alike. -/
theorem get?_cases (hp : ∀ f ∈ p, f.2.Valid) (hq : ∀ f ∈ q, f.2.Valid)
    (h : Keyed.Related (Alike SameAmount) p q) (field : String) :
    Keyed.get? p field = none ∧ Keyed.get? q field = none ∨
      ∃ v w, Keyed.get? p field = some v ∧ Keyed.get? q field = some w ∧
        v.Valid ∧ w.Valid ∧ Alike SameAmount v w := by
  have hrel := h.get? field
  generalize hv : Keyed.get? p field = x at hrel ⊢
  generalize hw : Keyed.get? q field = y at hrel ⊢
  cases hrel with
  | none => exact .inl ⟨rfl, rfl⟩
  | some halike =>
    exact .inr ⟨_, _, rfl, rfl, hp _ (Keyed.mem_of_get? hv), hq _ (Keyed.mem_of_get? hw), halike⟩

/-- A field that passes in one payload passes in the other unless it splits their values. -/
theorem fieldError?_of_alike (hp : ∀ f ∈ p, f.2.Valid) (hq : ∀ f ∈ q, f.2.Valid)
    (h : Keyed.Related (Alike SameAmount) p q) {f : String × Typ}
    (hpass : fieldError? p f.1 f.2 = none) :
    fieldError? q f.1 f.2 = none ↔ ¬ ∃ v w, Keyed.get? p (splitOptional f.1).1 = some v ∧
      Keyed.get? q (splitOptional f.1).1 = some w ∧ f.2.Splits v w := by
  rcases get?_cases hp hq h (splitOptional f.1).1 with ⟨hv, hw⟩ | ⟨v, w, hv, hw, hvalid, hvalid', halike⟩
  · rw [fieldError?_of_missing _ hv] at hpass
    rw [fieldError?_of_missing _ hw]
    exact iff_of_true hpass (by simp [hv])
  · rw [fieldError?_of_found _ hv, Option.map_eq_none_iff] at hpass
    rw [fieldError?_of_found _ hw, Option.map_eq_none_iff, Typ.check_of_alike hvalid hvalid' halike hpass]
    simp [hv, hw]

theorem failures_eq_nil_iff : s.failures p = [] ↔ ∀ f ∈ s, fieldError? p f.1 f.2 = none :=
  List.filterMap_eq_nil_iff

/-- Failures name the field they are about. -/
theorem key_of_fieldError? {f : String × Typ} {e : FieldError} (h : fieldError? p f.1 f.2 = some e) :
    e.key = (splitOptional f.1).1 := by
  cases hv : Keyed.get? p (splitOptional f.1).1 with
  | none =>
    rw [fieldError?_of_missing _ hv] at h
    split_ifs at h
    rw [← Option.some.inj h]
  | some v =>
    rw [fieldError?_of_found _ hv] at h
    obtain ⟨m, -, rfl⟩ := Option.map_eq_some_iff.mp h
    rfl

theorem keys_failures_congr
    (h : ∀ f ∈ s, fieldError? p f.1 f.2 = none ↔ fieldError? q f.1 f.2 = none) :
    (s.failures p).map FieldError.key = (s.failures q).map FieldError.key := by
  rw [failures, failures, List.map_filterMap, List.map_filterMap]
  apply List.filterMap_congr
  intro f hf
  cases hp : fieldError? p f.1 f.2 with
  | none => rw [(h f hf).mp hp]
  | some e =>
    obtain ⟨e', hq⟩ := Option.ne_none_iff_exists'.mp fun hq => absurd ((h f hf).mpr hq) (by simp [hp])
    rw [hq, Option.map_some, Option.map_some, key_of_fieldError? hp, key_of_fieldError? hq]

/-- Payloads that differ only in the types of their numbers fail in the same fields, and so pass or fail
together, unless a field asks for a whole number where one of them has an infinity of single precision
and the other a double. With such a field, a payload that passes has a counterpart that does not. -/
theorem failures_of_alike (s : Schema) {p q : Keyed Value} (hp : ∀ f ∈ p, f.2.Valid)
    (hq : ∀ f ∈ q, f.2.Valid) (h : Keyed.Related (Alike SameAmount) p q) :
    (¬ s.Splits p q → ¬ s.Splits q p →
      (s.failures p = [] ↔ s.failures q = []) ∧
        (s.failures p).map FieldError.key = (s.failures q).map FieldError.key) ∧
    (s.failures p = [] → (s.failures q = [] ↔ ¬ s.Splits p q)) := by
  have hback : Keyed.Related (Alike SameAmount) q p := h.symm fun _ _ => .symm fun _ _ => .symm
  constructor
  · intro hpq hqp
    have hfield : ∀ f ∈ s, fieldError? p f.1 f.2 = none ↔ fieldError? q f.1 f.2 = none := by
      intro f hf
      constructor
      · intro hpass
        exact (fieldError?_of_alike hp hq h hpass).mpr fun hsplit => hpq ⟨f, hf, hsplit⟩
      · intro hpass
        exact (fieldError?_of_alike hq hp hback hpass).mpr fun hsplit => hqp ⟨f, hf, hsplit⟩
    refine ⟨?_, keys_failures_congr hfield⟩
    rw [failures_eq_nil_iff, failures_eq_nil_iff]
    exact forall₂_congr hfield
  · intro hpass
    rw [failures_eq_nil_iff] at hpass ⊢
    constructor
    · rintro hall ⟨f, hf, hsplit⟩
      exact (fieldError?_of_alike hp hq h (hpass f hf)).mp (hall f hf) hsplit
    · intro hnot f hf
      exact (fieldError?_of_alike hp hq h (hpass f hf)).mpr fun hsplit => hnot ⟨f, hf, hsplit⟩

/-- Whole numbers in a list of lists, as an integer and a double in one payload and as a number of single
precision and a byte in the other. -/
theorem failures_of_alike_nested :
    let s : Schema := [("rows", .slice (.slice .int))]
    let p : Keyed Value := [("rows", .list [.list [.int .int 3, .float (.finite false 1 1)]])]
    let q : Keyed Value := [("rows", .list [.list [.single (.finite false 3 0), .int .uint8 2]])]
    (∀ f ∈ p, f.2.Valid) ∧ (∀ f ∈ q, f.2.Valid) ∧ Keyed.Related (Alike SameAmount) p q ∧
      ¬ s.Splits p q ∧ s.failures p = [] ∧ s.failures q = [] := by
  intro s p q
  have hp : ∀ f ∈ p, f.2.Valid := by
    refine List.forall_mem_singleton.mpr (.list (List.forall_mem_singleton.mpr (.list ?_)))
    refine List.forall_mem_cons.mpr ⟨.int .int (by decide), List.forall_mem_singleton.mpr (.float ?_)⟩
    exact .inr ⟨rfl, by decide, by decide, by decide⟩
  have hq : ∀ f ∈ q, f.2.Valid := by
    refine List.forall_mem_singleton.mpr (.list (List.forall_mem_singleton.mpr (.list ?_)))
    refine List.forall_mem_cons.mpr ⟨.single ?_, List.forall_mem_singleton.mpr (.int .uint8 (by decide))⟩
    exact .inr ⟨rfl, by decide, by decide, by decide⟩
  have hthree : SameAmount (.int .int 3) (.single (.finite false 3 0)) :=
    ⟨.rational 3, by simp [amount?], by simp [amount?, Binary.amount?, Binary.signed]⟩
  have htwo : SameAmount (.float (.finite false 1 1)) (.int .uint8 2) :=
    ⟨.rational 2, by simp [amount?, Binary.amount?, Binary.signed], by simp [amount?]⟩
  have halike : Keyed.Related (Alike SameAmount) p q :=
    .cons ⟨rfl, .of_forall₂ (.cons (.of_forall₂ (.cons (.number hthree) (.cons (.number htwo) .nil)))
      .nil)⟩ .nil
  have hsplit : ¬ s.Splits p q := by
    rintro ⟨f, hf, v, w, hv, hw, h⟩
    obtain rfl := List.mem_singleton.mp hf
    cases hv
    cases hw
    rcases h with _ | ⟨hrow, h⟩
    cases List.mem_singleton.mp hrow
    rcases h with _ | ⟨hcell, h⟩
    rcases List.mem_cons.mp hcell with hcell | hcell
    · cases hcell
      cases h
    · cases List.mem_singleton.mp hcell
      cases h
  exact ⟨hp, hq, halike, hsplit, rfl, ((failures_of_alike s hp hq halike).2 rfl).mpr hsplit⟩

/-- The infinity of single precision is taken for a whole number. -/
theorem not_failures_congr :
    ¬ ∀ (s : Schema) (p q : Keyed Value), (∀ f ∈ p, f.2.Valid) → (∀ f ∈ q, f.2.Valid) →
      Keyed.Related (Alike SameAmount) p q →
        (s.failures p = [] ↔ s.failures q = []) ∧
          (s.failures p).map FieldError.key = (s.failures q).map FieldError.key := by
  intro h
  have hsame : SameAmount (.single (.infinite false)) (.float (.infinite false)) := ⟨_, rfl, rfl⟩
  have hpass := (h [("n", .int)] [("n", .single (.infinite false))] [("n", .float (.infinite false))]
    (List.forall_mem_singleton.mpr (.single trivial)) (List.forall_mem_singleton.mpr (.float trivial))
    (.cons ⟨rfl, .number hsame⟩ .nil)).1.mp rfl
  cases hpass

end Schema
end Courier
