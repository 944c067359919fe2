import Courier.Store.Masked
import Mathlib.Tactic.Common

/-! What masking lets through. Wherever it comes to, it leaves no value under a key that matches, and
it comes to all records and lists that are not under such a key. Tables it takes as they are, with
every key inside them. -/
namespace Courier.Masking

variable {hit : String → Bool}

/-- Under a text key, at some depth of a value, stands another value. -/
inductive Shows : Value → String → Value → Prop
  | field {fs : List (String × Value)} {k : String} {w : Value} (h : (k, w) ∈ fs) :
      Shows (.record fs) k w
  | inField {fs : List (String × Value)} {j k : String} {v w : Value} (h : (j, v) ∈ fs)
      (hv : Shows v k w) : Shows (.record fs) k w
  | inItem {vs : List Value} {k : String} {v w : Value} (h : v ∈ vs) (hv : Shows v k w) :
      Shows (.list vs) k w
  | entry {es : List (Value × Value)} {k : String} {w : Value} (h : (.text k, w) ∈ es) :
      Shows (.table es) k w
  | inEntry {es : List (Value × Value)} {k : String} {u v w : Value} (h : (u, v) ∈ es)
      (hv : Shows v k w) : Shows (.table es) k w

/-- A part of a value that no key which matches stands above, and no table. -/
inductive Open (hit : String → Bool) : Value → Value → Prop
  | here (v : Value) : Open hit v v
  | field {fs : List (String × Value)} {k : String} {v p : Value} (h : (k, v) ∈ fs)
      (hk : hit k = false) (hv : Open hit v p) : Open hit (.record fs) p
  | item {vs : List Value} {v p : Value} (h : v ∈ vs) (hv : Open hit v p) : Open hit (.list vs) p

theorem mem_maskFields {fs : List (String × Value)} {k : String} {w : Value} :
    (k, w) ∈ maskFields hit fs ↔
      ∃ v, (k, v) ∈ fs ∧ w = if hit k then mask else maskValue hit v := by
  induction fs with
  | nil => simp [maskFields]
  | cons e fs ih =>
    obtain ⟨j, u⟩ := e
    rw [maskFields, List.mem_cons, ih]
    constructor
    · rintro (h | ⟨v, hv, hw⟩)
      · obtain ⟨rfl, rfl⟩ := Prod.mk.inj h
        exact ⟨u, List.mem_cons_self, rfl⟩
      · exact ⟨v, List.mem_cons_of_mem _ hv, hw⟩
    · rintro ⟨v, hv, hw⟩
      rcases List.mem_cons.mp hv with h | hv
      · obtain ⟨rfl, rfl⟩ := Prod.mk.inj h
        exact .inl (by rw [hw])
      · exact .inr ⟨v, hv, hw⟩

theorem maskItems_eq_map (vs : List Value) : maskItems hit vs = vs.map (maskValue hit) := by
  induction vs with
  | nil => rw [maskItems, List.map_nil]
  | cons v vs ih => rw [maskItems, ih, List.map_cons]

theorem mem_maskItems {vs : List Value} {w : Value} :
    w ∈ maskItems hit vs ↔ ∃ v ∈ vs, maskValue hit v = w := by
  rw [maskItems_eq_map, List.mem_map]

/-- Masking keeps the kind of a value: a record comes from a record, a list from a list, and a table
from that table. -/
theorem of_maskValue_record {v : Value} {gs : List (String × Value)}
    (h : maskValue hit v = .record gs) : ∃ fs, v = .record fs ∧ gs = maskFields hit fs := by
  cases v with
  | record fs =>
    rw [maskValue] at h
    exact ⟨fs, rfl, (Value.record.inj h).symm⟩
  | _ => simp [maskValue] at h

theorem of_maskValue_list {v : Value} {ws : List Value} (h : maskValue hit v = .list ws) :
    ∃ vs, v = .list vs ∧ ws = maskItems hit vs := by
  cases v with
  | list vs =>
    rw [maskValue] at h
    exact ⟨vs, rfl, (Value.list.inj h).symm⟩
  | _ => simp [maskValue] at h

theorem of_maskValue_table {v : Value} {es : List (Value × Value)}
    (h : maskValue hit v = .table es) : v = .table es := by
  cases v with
  | table => simpa [maskValue] using h
  | _ => simp [maskValue] at h

theorem not_shows_mask {k : String} {w : Value} : ¬ Shows mask k w := nofun

/-- What is still shown under a key that matches is the mask, or it stands inside a table. -/
theorem shows_maskValue {v w : Value} {k : String} (h : Shows (maskValue hit v) k w)
    (hk : hit k = true) :
    w = mask ∨ ∃ es, Open hit v (.table es) ∧ Shows (.table es) k w := by
  -- The induction follows the way down to the key; the value it started from is masked throughout.
  generalize hu : maskValue hit v = u at h
  induction h generalizing v with
  | field h =>
    obtain ⟨fs, rfl, rfl⟩ := of_maskValue_record hu
    obtain ⟨x, -, hw⟩ := mem_maskFields.mp h
    rw [if_pos hk] at hw
    exact .inl hw
  | @inField gs j k x w h hx ih =>
    obtain ⟨fs, rfl, rfl⟩ := of_maskValue_record hu
    obtain ⟨y, hy, hxy⟩ := mem_maskFields.mp h
    cases hj : hit j with
    | true =>
      rw [hj, if_pos rfl] at hxy
      exact absurd (hxy ▸ hx) not_shows_mask
    | false =>
      rw [hj, if_neg Bool.false_ne_true] at hxy
      refine (ih hk hxy.symm).imp_right ?_
      rintro ⟨es, hopen, hes⟩
      exact ⟨es, .field hy hj hopen, hes⟩
  | inItem h hx ih =>
    obtain ⟨vs, rfl, rfl⟩ := of_maskValue_list hu
    obtain ⟨y, hy, hxy⟩ := mem_maskItems.mp h
    refine (ih hk hxy).imp_right ?_
    rintro ⟨es, hopen, hes⟩
    exact ⟨es, .item hy hopen, hes⟩
  | entry h =>
    have hv := of_maskValue_table hu
    subst hv
    exact .inr ⟨_, .here _, .entry h⟩
  | inEntry h hx =>
    have hv := of_maskValue_table hu
    subst hv
    exact .inr ⟨_, .here _, .inEntry h hx⟩

/-- What a part shows once it is masked, the whole shows once it is masked. -/
theorem Open.shows {v p w : Value} {k : String} (h : Open hit v p)
    (hp : Shows (maskValue hit p) k w) : Shows (maskValue hit v) k w := by
  induction h with
  | here => exact hp
  | @field fs j u p h hj hu ih =>
    have hmem : (j, maskValue hit u) ∈ maskFields hit fs :=
      mem_maskFields.mpr ⟨u, h, by rw [hj, if_neg Bool.false_ne_true]⟩
    rw [maskValue]
    exact .inField hmem (ih hp)
  | item h hu ih =>
    rw [maskValue]
    exact .inItem (mem_maskItems.mpr ⟨_, h, rfl⟩) (ih hp)

theorem maskValue_table (es : List (Value × Value)) : maskValue hit (.table es) = .table es := by
  rw [maskValue]
  · nofun
  · nofun

/-- A table is handed on with all that is in it. -/
theorem Open.shows_table {v w : Value} {es : List (Value × Value)} {k : String}
    (h : Open hit v (.table es)) (hw : Shows (.table es) k w) : Shows (maskValue hit v) k w := by
  apply h.shows
  rw [maskValue_table]
  exact hw

/-- The two values of a result that keys stand in: its bindings as a record, and its value. -/
def roots (r : Result) : List Value := [.record (r.bindings.getD []), r.value]

theorem roots_maskResult (r : Result) :
    roots (maskResult hit r) = (roots r).map (maskValue hit) := by
  have hbindings :
      (r.bindings.map (maskFields hit)).getD [] = maskFields hit (r.bindings.getD []) := by
    cases r.bindings with
    | none =>
      change [] = maskFields hit []
      rw [maskFields]
    | some fs => rfl
  simp only [roots, maskResult, hbindings, List.map_cons, List.map_nil, maskValue]

theorem maskValue_mem_roots {r : Result} {v : Value} (h : v ∈ roots r) :
    maskValue hit v ∈ roots (maskResult hit r) := by
  rw [roots_maskResult]
  exact List.mem_map_of_mem h

/-- A store behind the mask is handed the masked result. There every key that matches, at any depth of
the bindings or of the value, stands over the mask, unless it is inside a table of the result. All
other keys are there as before, and tables are handed on with all that is in them. -/
theorem layer_masks {σ : Type} (ps : List Pattern) (next : ResultStore σ) (r : Result) (s : σ) :
    (layer (matchesAny ps) next).save r s = next.save (maskResult (matchesAny ps) r) s ∧
    (∀ k w, matchesAny ps k = true →
      (∃ v ∈ roots (maskResult (matchesAny ps) r), Shows v k w) →
      w = mask ∨ ∃ v ∈ roots r, ∃ es, Open (matchesAny ps) v (.table es) ∧ Shows (.table es) k w) ∧
    (∀ v ∈ roots r, ∀ fs, Open (matchesAny ps) v (.record fs) → ∀ k w, (k, w) ∈ fs →
      ∃ u ∈ roots (maskResult (matchesAny ps) r),
        Shows u k (if matchesAny ps k then mask else maskValue (matchesAny ps) w)) ∧
    (∀ v ∈ roots r, ∀ es, Open (matchesAny ps) v (.table es) → ∀ k w, Shows (.table es) k w →
      ∃ u ∈ roots (maskResult (matchesAny ps) r), Shows u k w) := by
  refine ⟨rfl, ?_, ?_, ?_⟩
  · rintro k w hk ⟨u, hu, hshows⟩
    rw [roots_maskResult] at hu
    obtain ⟨v, hv, rfl⟩ := List.mem_map.mp hu
    exact (shows_maskValue hshows hk).imp_right fun h => ⟨v, hv, h⟩
  · intro v hv fs hopen k w hw
    refine ⟨_, maskValue_mem_roots hv, hopen.shows ?_⟩
    rw [maskValue]
    exact .field (mem_maskFields.mpr ⟨w, hw, rfl⟩)
  · intro v hv es hopen k w hw
    exact ⟨_, maskValue_mem_roots hv, hopen.shows_table hw⟩

/-- A binding whose value has a number among its keys is a table. The key inside it matches, and what
stands under it is handed on. -/
theorem layer_masks_table : ¬ ∀ (ps : List Pattern) (r : Result) (k : String) (w : Value),
    matchesAny ps k = true → (∃ v ∈ roots (maskResult (matchesAny ps) r), Shows v k w) →
    w = mask := by
  intro hall
  let ps : List Pattern := (Pattern.parse "ssn").toOption.toList
  let es : List (Value × Value) := [(.ofInt 1, .text "a"), (.text "ssn", .text "123-45-6789")]
  let r : Result := { Result.blank with bindings := some [("user", .table es)] }
  have hhit : matchesAny ps "ssn" = true := by decide +kernel
  have huser : matchesAny ps "user" = false := by decide +kernel
  have hopen : Open (matchesAny ps) (.record [("user", .table es)]) (.table es) :=
    .field List.mem_cons_self huser (.here _)
  have hshows : Shows (.table es) "ssn" (.text "123-45-6789") :=
    .entry (List.mem_cons_of_mem _ List.mem_cons_self)
  have hroot : Value.record [("user", .table es)] ∈ roots r := List.mem_cons_self
  have hw := hall ps r "ssn" _ hhit ⟨_, maskValue_mem_roots hroot, hopen.shows_table hshows⟩
  exact absurd (Value.text.inj hw) (by decide)

end Courier.Masking
