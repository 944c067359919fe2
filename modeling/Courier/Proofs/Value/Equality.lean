import Courier.Proofs.Keyed
import Courier.Proofs.Number.Amount
import Courier.Proofs.Program.WellFormed

/-! Values that differ only in the types of their numbers.
`Alike R` puts numbers that `R` relates in each other's places, at the top or anywhere inside lists and
records. Such values are equal to a program if they are numbers themselves; inside a list or a record,
the types of the numbers have to agree. -/
namespace Courier

namespace Value

/-- What a number of any type amounts to. -/
def amount? : Value → Option Amount
  | .int _ n => some (.rational n)
  | .float x => x.amount?
  | .single x => x.amount?
  | _ => none

/-- Numbers, of any two types, that amount to the same. -/
def SameAmount (v w : Value) : Prop := ∃ a, v.amount? = some a ∧ w.amount? = some a

/-- Numbers of one type that amount to the same. -/
def SameNumber (v w : Value) : Prop := SameAmount v w ∧ v.typeName = w.typeName

/-- Values that are the same but for numbers, which are related by `R`. -/
inductive Alike (R : Value → Value → Prop) : Value → Value → Prop
  | refl (v : Value) : Alike R v v
  | number {v w : Value} (h : R v w) : Alike R v w
  | list {vs ws : List Value} (hlen : vs.length = ws.length)
      (h : ∀ v w, (v, w) ∈ vs.zip ws → Alike R v w) : Alike R (.list vs) (.list ws)
  | record {fs gs : List (String × Value)} (hkeys : Keyed.keys fs = Keyed.keys gs)
      (h : ∀ f g, (f, g) ∈ fs.zip gs → Alike R f.2 g.2) : Alike R (.record fs) (.record gs)

/-- Values built from null, booleans, texts, numbers, lists and records, with no not-a-number among them
and no integer that a double cannot hold. -/
inductive Plain : Value → Prop
  | null : Plain .null
  | bool (b : Bool) : Plain (.bool b)
  | text (s : String) : Plain (.text s)
  | int (k : IntKind) {n : ℤ} (h : n.natAbs ≤ 2 ^ 53) : Plain (.int k n)
  | float {x : Binary} (h : x.InFormat .double) (hx : x ≠ .nan) : Plain (.float x)
  | single {x : Binary} (h : x.InFormat .single) (hx : x ≠ .nan) : Plain (.single x)
  | list {vs : List Value} (h : ∀ v ∈ vs, Plain v) : Plain (.list vs)
  | record {fs : List (String × Value)} (h : ∀ f ∈ fs, Plain f.2) : Plain (.record fs)

theorem sameList_iff {vs ws : List Value} :
    sameList vs ws = true ↔ List.Forall₂ (fun v w => same v w = true) vs ws := by
  induction vs generalizing ws with
  | nil => cases ws <;> simp [sameList]
  | cons v vs ih => cases ws <;> simp [sameList, ih]

theorem sameFields_iff {fs gs : List (String × Value)} :
    sameFields fs gs = true ↔ Keyed.Related (fun v w => same v w = true) fs gs := by
  induction fs generalizing gs with
  | nil => cases gs <;> simp [sameFields, Keyed.Related]
  | cons f fs ih =>
    obtain ⟨k, v⟩ := f
    cases gs with
    | nil => simp [sameFields, Keyed.Related]
    | cons g gs =>
      obtain ⟨l, w⟩ := g
      simp [sameFields, ih, Keyed.Related]

theorem mem_zip_swap {α β : Type} {l : List α} {m : List β} {a : α} {b : β} (h : (a, b) ∈ l.zip m) :
    (b, a) ∈ m.zip l := by
  rw [← List.zip_swap]
  exact List.mem_map_of_mem h

namespace Alike

variable {R : Value → Value → Prop}

theorem of_forall₂ {vs ws : List Value} (h : List.Forall₂ (Alike R) vs ws) :
    Alike R (.list vs) (.list ws) :=
  .list h.length_eq fun _ _ => List.forall₂_zip h

theorem mono {S : Value → Value → Prop} (hRS : ∀ v w, R v w → S v w) {v w : Value}
    (h : Alike R v w) : Alike S v w := by
  induction h with
  | refl v => exact .refl v
  | number h => exact .number (hRS _ _ h)
  | list hlen _ ih => exact .list hlen ih
  | record hkeys _ ih => exact .record hkeys ih

theorem symm (hR : ∀ v w, R v w → R w v) {v w : Value} (h : Alike R v w) : Alike R w v := by
  induction h with
  | refl v => exact .refl v
  | number h => exact .number (hR _ _ h)
  | list hlen _ ih => exact .list hlen.symm fun v w hmem => ih w v (mem_zip_swap hmem)
  | record hkeys _ ih => exact .record hkeys.symm fun f g hmem => ih g f (mem_zip_swap hmem)

end Alike

theorem SameAmount.symm {v w : Value} (h : SameAmount v w) : SameAmount w v := by
  obtain ⟨a, hv, hw⟩ := h
  exact ⟨a, hw, hv⟩

theorem name_injective {k l : IntKind} (h : k.name = l.name) : k = l := by
  revert h
  cases k <;> cases l <;> decide

theorem name_ne (k : IntKind) : k.name ≠ "float64" ∧ k.name ≠ "float32" := by
  cases k <;> decide

namespace Plain

variable {v w : Value}

/-- A number as it is compared. -/
theorem exists_double (h : v.Plain) {a : Amount} (ha : v.amount? = some a) :
    ∃ f x, v.toDouble? = some x ∧ x.InFormat f ∧ x.amount? = some a := by
  cases h with
  | int k hn =>
    obtain rfl := Option.some.inj ha
    exact ⟨_, _, rfl, Binary.inFormat_ofInt _, Binary.amount?_ofInt hn⟩
  | float h hx => exact ⟨_, _, rfl, h, ha⟩
  | single h hx => exact ⟨_, _, rfl, h, ha⟩
  | _ => cases ha

theorem toDouble?_eq_none (h : v.Plain) (ha : v.amount? = none) : v.toDouble? = none := by
  cases h with
  | float h hx =>
    obtain ⟨a, hx⟩ := Binary.exists_amount hx
    exact absurd (hx.symm.trans ha) (by simp)
  | single h hx =>
    obtain ⟨a, hx⟩ := Binary.exists_amount hx
    exact absurd (hx.symm.trans ha) (by simp)
  | int k hn => cases ha
  | _ => rfl

theorem equal_of_number (hv : v.Plain) (hw : w.Plain) (h : SameAmount v w) : v.equal w = true := by
  obtain ⟨a, hva, hwa⟩ := h
  obtain ⟨f, x, hx, hxf, hxa⟩ := hv.exists_double hva
  obtain ⟨g, y, hy, hyg, hya⟩ := hw.exists_double hwa
  rw [equal, hx, hy]
  exact (Binary.numEq_iff hxf hyg).mpr ⟨a, hxa, hya⟩

theorem equal_of_not_number (hv : v.Plain) (ha : v.amount? = none) : v.equal w = same v w := by
  rw [equal, hv.toDouble?_eq_none ha]

/-- Numbers of one type are the same structure when they amount to the same. -/
theorem same_of_number (hv : v.Plain) (hw : w.Plain) (h : SameNumber v w) : same v w = true := by
  obtain ⟨⟨a, hva, hwa⟩, htype⟩ := h
  cases hv with
  | @int k m hm =>
    cases hw with
    | @int l n hn =>
      obtain rfl : k = l := name_injective htype
      obtain rfl : m = n := by simpa [amount?] using hva.trans hwa.symm
      simp [same]
    | float => exact absurd htype (name_ne k).1
    | single => exact absurd htype (name_ne k).2
    | _ => cases hwa
  | float hx =>
    cases hw with
    | float hy =>
      rw [same]
      exact (Binary.numEq_iff hx hy).mpr ⟨a, hva, hwa⟩
    | @int l n hn => exact absurd htype.symm (name_ne l).1
    | single => exact absurd htype (show "float64" ≠ "float32" by decide)
    | _ => cases hwa
  | single hx =>
    cases hw with
    | single hy =>
      rw [same]
      exact (Binary.numEq_iff hx hy).mpr ⟨a, hva, hwa⟩
    | @int l n hn => exact absurd htype.symm (name_ne l).2
    | float => exact absurd htype (show "float32" ≠ "float64" by decide)
    | _ => cases hwa
  | _ => cases hva

theorem same_self (h : v.Plain) : same v v = true := by
  induction h with
  | null => rw [same]
  | bool b => simp [same]
  | text s => simp [same]
  | @int k n h => exact same_of_number (.int k h) (.int k h) ⟨⟨_, rfl, rfl⟩, rfl⟩
  | float h hx =>
    obtain ⟨a, ha⟩ := Binary.exists_amount hx
    exact same_of_number (.float h hx) (.float h hx) ⟨⟨a, ha, ha⟩, rfl⟩
  | single h hx =>
    obtain ⟨a, ha⟩ := Binary.exists_amount hx
    exact same_of_number (.single h hx) (.single h hx) ⟨⟨a, ha, ha⟩, rfl⟩
  | @list vs h ih =>
    rw [same, sameList_iff]
    exact List.forall₂_same.mpr ih
  | record h ih =>
    rw [same, sameFields_iff]
    exact List.forall₂_same.mpr fun f hf => ⟨rfl, ih f hf⟩

/-- Inside lists and records numbers of one type are needed. -/
theorem same_of_alike (hv : v.Plain) (hw : w.Plain) (h : Alike SameNumber v w) : same v w = true := by
  induction h with
  | refl v => exact hv.same_self
  | number h => exact hv.same_of_number hw h
  | list hlen h ih =>
    cases hv with
    | list hvs =>
      cases hw with
      | list hws =>
        rw [same, sameList_iff, List.forall₂_iff_zip]
        refine ⟨hlen, fun hmem => ?_⟩
        obtain ⟨hleft, hright⟩ := List.of_mem_zip hmem
        exact ih _ _ hmem (hvs _ hleft) (hws _ hright)
  | record hkeys h ih =>
    cases hv with
    | record hfs =>
      cases hw with
      | record hgs =>
        rw [same, sameFields_iff, Keyed.related_iff_zip]
        refine ⟨hkeys, fun f g hmem => ?_⟩
        obtain ⟨hleft, hright⟩ := List.of_mem_zip hmem
        exact ih f g hmem (hfs _ hleft) (hgs _ hright)

end Plain

/-- The same structure holds numbers of one type at each place. -/
theorem Alike.of_same {v w : Value} (h : Alike SameAmount v w) (hsame : same v w = true) :
    Alike SameNumber v w := by
  induction h with
  | refl v => exact .refl v
  | @number v w h =>
    refine .number ⟨h, ?_⟩
    obtain ⟨a, hv, hw⟩ := h
    cases v with
    | int k m =>
      cases w with
      | int l n =>
        obtain ⟨rfl, -⟩ : k = l ∧ m = n := by simpa [same] using hsame
        rfl
      | _ => simp [same] at hsame
    | float x =>
      cases w with
      | float y => rfl
      | _ => simp [same] at hsame
    | single x =>
      cases w with
      | single y => rfl
      | _ => simp [same] at hsame
    | _ => cases hv
  | list hlen h ih =>
    rw [same, sameList_iff] at hsame
    exact .list hlen fun v w hmem => ih v w hmem (List.forall₂_zip hsame hmem)
  | record hkeys h ih =>
    rw [same, sameFields_iff, Keyed.related_iff_zip] at hsame
    exact .record hkeys fun f g hmem => ih f g hmem (hsame.2 f g hmem)

/-- Values that are the same but for the types of their numbers are equal to a program just when they
are numbers themselves or, inside them, all numbers have the types of their counterparts. -/
theorem equal_of_alike {v w : Value} (hv : v.Plain) (hw : w.Plain) (h : Alike SameAmount v w) :
    v.equal w = true ↔ SameAmount v w ∨ Alike SameNumber v w := by
  cases ha : v.amount? with
  | none =>
    have hnumber : ¬ SameAmount v w := by
      rintro ⟨a, hva, -⟩
      exact absurd (hva.symm.trans ha) (by simp)
    rw [hv.equal_of_not_number ha]
    constructor
    · intro hsame
      exact .inr (h.of_same hsame)
    · rintro (hnum | hnum)
      · exact absurd hnum hnumber
      · exact hv.same_of_alike hw hnum
  | some a =>
    have hnumber : SameAmount v w := by
      cases h with
      | refl => exact ⟨a, ha, ha⟩
      | number h => exact h
      | list | record => cases ha
    exact iff_of_true (hv.equal_of_number hw hnumber) (.inl hnumber)

/-- The two zeros are equal inside a list, where the integers have one type. -/
theorem equal_of_alike_zeros :
    (list [float (.finite true 0 0), int .int 7]).Plain ∧ (list [float .zero, int .int 7]).Plain ∧
      Alike SameAmount (list [float (.finite true 0 0), int .int 7]) (list [float .zero, int .int 7]) ∧
      (list [float (.finite true 0 0), int .int 7]).equal (list [float .zero, int .int 7]) = true := by
  have hplain (s : Bool) : (list [float (.finite s 0 0), int .int 7]).Plain := by
    refine .list (List.forall_mem_cons.mpr ⟨.float (.inl ⟨rfl, rfl⟩) nofun, ?_⟩)
    exact List.forall_mem_singleton.mpr (.int .int (by decide))
  have halike : Alike SameNumber (list [float (.finite true 0 0), int .int 7])
      (list [float .zero, int .int 7]) :=
    .of_forall₂ (.cons (.number ⟨⟨.rational 0, by simp [amount?, Binary.amount?, Binary.signed],
      by simp [amount?, Binary.zero, Binary.amount?, Binary.signed]⟩, rfl⟩) (.cons (.refl _) .nil))
  have hsame := halike.mono fun _ _ h => h.1
  exact ⟨hplain true, hplain false, hsame,
    (equal_of_alike (hplain true) (hplain false) hsame).mpr (.inr halike)⟩

/-- A list of an integer does not equal the list of its double. -/
theorem not_equal_of_types :
    ¬ ∀ v w : Value, v.Plain → w.Plain → Alike SameAmount v w → v.equal w = true := by
  intro h
  have hint : (list [int .int 1]).Plain := .list (List.forall_mem_singleton.mpr (.int .int (by decide)))
  have hfloat : (list [float (.finite false 1 0)]).Plain :=
    .list (List.forall_mem_singleton.mpr (.float (.inr ⟨rfl, by decide, by decide, by decide⟩) nofun))
  have halike : Alike SameAmount (list [int .int 1]) (list [float (.finite false 1 0)]) :=
    .of_forall₂ (.cons (.number ⟨.rational 1, by simp [amount?], by
      simp [amount?, Binary.amount?, Binary.signed]⟩) .nil)
  have hequal := h _ _ hint hfloat halike
  rw [hint.equal_of_not_number rfl] at hequal
  simp [same, sameList] at hequal

end Value

namespace Expr

open Binary

variable {c : Context} {a b : Expr} {k l : IntKind} {m n : ℤ}

/-- A comparison of integers compares the doubles that they round to. So the same integer is always
equal to itself, below `2 ^ 53` nothing else is equal to it, and from there on only integers of its size
that are at most `2 ^ 11` away. -/
theorem eval_eq_integers (ha : a.eval c = .ok (.int k m)) (hb : b.eval c = .ok (.int l n))
    (hm : m.natAbs < 2 ^ 64) (hn : n.natAbs < 2 ^ 64) :
    ∃ r, (eq a b).eval c = .ok (.bool r) ∧ (Value.int k m).equal (.int l n) = r ∧
      (r = true ↔ ∃ d, RoundsTo m d ∧ RoundsTo n d) ∧ (m = n → r = true) ∧
      (r = true → m = n ∨ 2 ^ 53 ≤ m.natAbs ∧ 2 ^ 53 ≤ n.natAbs ∧ |m - n| ≤ 2 ^ 11) := by
  have hround : (Value.int k m).equal (.int l n) = true ↔ ∃ d, RoundsTo m d ∧ RoundsTo n d :=
    numEq_ofInt_iff hm hn
  refine ⟨(Value.int k m).equal (.int l n), ?_, rfl, hround, ?_, ?_⟩
  · rw [eval_eq, ha, hb]
    rfl
  · rintro rfl
    obtain ⟨d, hd, -⟩ := exists_roundsTo hm
    exact hround.mpr ⟨d, hd, hd⟩
  · intro hr
    obtain ⟨d, hmd, hnd⟩ := hround.mp hr
    have hmle := spacing_le hm
    have hnle := spacing_le hn
    rcases hmd.eq_or_near hnd with heq | ⟨hmbig, hnbig, hnear⟩
    · exact .inl heq
    · exact .inr ⟨hmbig, hnbig, by omega⟩

/-- Past `2 ^ 53` the even integers are still told apart, whatever their types. -/
theorem eval_eq_integers_even :
    ∃ r, (eq (lit (.int .uint64 9007199254740996)) (lit (.int .int64 9007199254740994))).eval
        (.start default none) = .ok (.bool r) ∧
      (Value.int .uint64 9007199254740996).equal (.int .int64 9007199254740994) = r ∧
      (r = true ↔ ∃ d, RoundsTo 9007199254740996 d ∧ RoundsTo 9007199254740994 d) ∧
      ((9007199254740996 : ℤ) = 9007199254740994 → r = true) ∧
      (r = true → (9007199254740996 : ℤ) = 9007199254740994 ∨ 2 ^ 53 ≤ (9007199254740996 : ℤ).natAbs ∧
        2 ^ 53 ≤ (9007199254740994 : ℤ).natAbs ∧ |(9007199254740996 : ℤ) - 9007199254740994| ≤ 2 ^ 11) :=
  eval_eq_integers rfl rfl (by decide) (by decide)

/-- The integer next to `2 ^ 53` rounds to it and is taken for it. -/
theorem not_eval_eq_exact :
    ¬ ∀ (k l : IntKind) (m n : ℤ), m.natAbs < 2 ^ 64 → n.natAbs < 2 ^ 64 →
      ((Value.int k m).equal (.int l n) = true ↔ m = n) := by
  intro h
  have hequal := (h .int64 .int64 9007199254740993 9007199254740992 (by decide) (by decide)).mp
    (by decide +kernel)
  revert hequal
  decide

end Expr

end Courier
