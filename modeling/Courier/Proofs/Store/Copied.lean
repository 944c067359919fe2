import Courier.Proofs.Store.Masking
import Mathlib.Data.List.Nodup

/-! Masking in memory.
The records and lists of a result stand in memory, where others may hold them too, and one may stand at
many places of the result. So they are copied, and the copy is masked in place. What comes of it is the
masked result, and all that stood in memory before stays as it is. -/
namespace Courier.Masking

/-- What a variable, a field or an item holds: the address of a record or list, or any other value. -/
inductive Cell
  | leaf (v : Value)
  | ref (a : Nat)

/-- A record or list as it stands in memory. -/
inductive Container
  | record (fields : List (String × Cell))
  | list (items : List Cell)

/-- The records and lists by address. -/
abbrev Memory := List Container

/-- Copies the fields of a record in turn. -/
def copyFields (copy : Memory → Cell → Option (Memory × Cell)) (m : Memory) :
    List (String × Cell) → Option (Memory × List (String × Cell))
  | [] => some (m, [])
  | (k, c) :: cs => do
    let (m, d) ← copy m c
    let (m, ds) ← copyFields copy m cs
    some (m, (k, d) :: ds)

/-- Copies the items of a list in turn. -/
def copyItems (copy : Memory → Cell → Option (Memory × Cell)) (m : Memory) :
    List Cell → Option (Memory × List Cell)
  | [] => some (m, [])
  | c :: cs => do
    let (m, d) ← copy m c
    let (m, ds) ← copyItems copy m cs
    some (m, d :: ds)

/-- Copies what a cell holds, down to a depth: there would be no end to it where a record or list is
inside itself. Only records and lists are made anew. -/
def copyCell : Nat → Memory → Cell → Option (Memory × Cell)
  | _, m, .leaf v => some (m, .leaf v)
  | 0, _, .ref _ => none
  | n + 1, m, .ref a =>
    match m[a]? with
    | none => none
    | some (.record cs) => do
      let (m, ds) ← copyFields (copyCell n) m cs
      some (m ++ [.record ds], .ref m.length)
    | some (.list cs) => do
      let (m, ds) ← copyItems (copyCell n) m cs
      some (m ++ [.list ds], .ref m.length)

/-- Has a field of the record at an address hold something else. -/
def write (m : Memory) (a i : Nat) (c : Cell) : Memory :=
  m.modify a fun
    | .record cs => .record (cs.modify i fun f => (f.1, c))
    | .list cs => .list cs

/-- Masks in place the fields of the record at an address, from a position on. -/
def maskFieldCells (hit : String → Bool) (inside : Memory → Cell → Option Memory) (a : Nat)
    (m : Memory) (i : Nat) : List (String × Cell) → Option Memory
  | [] => some m
  | (k, c) :: cs =>
    if hit k then maskFieldCells hit inside a (write m a i (.leaf mask)) (i + 1) cs
    else do
      let m ← inside m c
      maskFieldCells hit inside a m (i + 1) cs

/-- Masks in place what a cell holds, down to a depth. -/
def maskCell (hit : String → Bool) : Nat → Memory → Cell → Option Memory
  | _, m, .leaf _ => some m
  | 0, _, .ref _ => none
  | n + 1, m, .ref a =>
    match m[a]? with
    | none => none
    | some (.record cs) => maskFieldCells hit (maskCell hit n) a m 0 cs
    | some (.list cs) => cs.foldlM (maskCell hit n) m

/-- Copies what a cell holds and masks the copy. -/
def maskedCopy (hit : String → Bool) (n : Nat) (m : Memory) (c : Cell) : Option (Memory × Cell) := do
  let (m, d) ← copyCell n m c
  let m ← maskCell hit n m d
  some (m, d)

/-- What is made of the bindings of a result, where there are some, and then of its value. -/
def maskedCopies (hit : String → Bool) (n : Nat) (m : Memory) :
    Option Cell → Cell → Option (Memory × Option Cell × Cell)
  | none, c => do
    let (m, d) ← maskedCopy hit n m c
    some (m, none, d)
  | some b, c => do
    let (m, e) ← maskedCopy hit n m b
    let (m, d) ← maskedCopy hit n m c
    some (m, some e, d)

mutual
/-- A cell holds a value. Each part of the value has its share of the addresses given, and what it is
read from stands there. -/
def Held (m : Memory) : Value → Cell → List Nat → Prop
  | .record fs, c, as => ∃ a bs cs, c = .ref a ∧ as = bs ++ [a] ∧ m[a]? = some (.record cs) ∧
      HeldFields m fs cs bs
  | .list vs, c, as => ∃ a bs cs, c = .ref a ∧ as = bs ++ [a] ∧ m[a]? = some (.list cs) ∧
      HeldItems m vs cs bs
  | v, c, _ => c = .leaf v
def HeldFields (m : Memory) : List (String × Value) → List (String × Cell) → List Nat → Prop
  | [], cs, _ => cs = []
  | (k, v) :: fs, cs, as => ∃ c ds bs bs', cs = (k, c) :: ds ∧ as = bs ++ bs' ∧ Held m v c bs ∧
      HeldFields m fs ds bs'
def HeldItems (m : Memory) : List Value → List Cell → List Nat → Prop
  | [], cs, _ => cs = []
  | v :: vs, cs, as => ∃ c ds bs bs', cs = c :: ds ∧ as = bs ++ bs' ∧ Held m v c bs ∧
      HeldItems m vs ds bs'
end

/-- A cell holds a value, wherever that stands. -/
def Holds (m : Memory) (v : Value) (c : Cell) : Prop := ∃ as, Held m v c as

structure HoldsResult (m : Memory) (r : Result) (b : Option Cell) (c : Cell) : Prop where
  bindings : Option.Rel (fun fs d => Holds m (.record fs) d) r.bindings b
  value : Holds m r.value c

variable {hit : String → Bool} {m m' : Memory} {as bs : List Nat}

/-- What stands at some addresses is found there later too. -/
def Stays (as : List Nat) (m m' : Memory) : Prop :=
  ∀ a ∈ as, ∀ t, m[a]? = some t → m'[a]? = some t

theorem Stays.mono (h : Stays bs m m') (hsub : as ⊆ bs) : Stays as m m' :=
  fun a ha => h a (hsub ha)

theorem stays_append (as : List Nat) (m new : Memory) : Stays as m (m ++ new) := by
  intro a _ t ht
  obtain ⟨hlt, -⟩ := List.getElem?_eq_some_iff.mp ht
  rw [List.getElem?_append_left hlt, ht]

mutual
theorem held_of_stays (v : Value) {c : Cell} {as : List Nat} (h : Held m v c as)
    (hm : Stays as m m') : Held m' v c as := by
  match v with
  | .record fs =>
    obtain ⟨a, bs, cs, rfl, rfl, ha, hcs⟩ := h
    have ha' : m'[a]? = some (.record cs) := hm a (by simp) _ ha
    exact ⟨a, bs, cs, rfl, rfl, ha',
      heldFields_of_stays fs hcs (hm.mono (List.subset_append_left _ _))⟩
  | .list vs =>
    obtain ⟨a, bs, cs, rfl, rfl, ha, hcs⟩ := h
    have ha' : m'[a]? = some (.list cs) := hm a (by simp) _ ha
    exact ⟨a, bs, cs, rfl, rfl, ha',
      heldItems_of_stays vs hcs (hm.mono (List.subset_append_left _ _))⟩
  | .null | .bool _ | .text _ | .int _ _ | .float _ | .single _ | .bytes _ | .texts _ | .table _
  | .time _ => exact h
theorem heldFields_of_stays (fs : List (String × Value)) {cs : List (String × Cell)} {as : List Nat}
    (h : HeldFields m fs cs as) (hm : Stays as m m') : HeldFields m' fs cs as := by
  match fs with
  | [] => exact h
  | (k, v) :: fs =>
    obtain ⟨c, ds, bs, bs', rfl, rfl, hc, hds⟩ := h
    exact ⟨c, ds, bs, bs', rfl, rfl, held_of_stays v hc (hm.mono (List.subset_append_left _ _)),
      heldFields_of_stays fs hds (hm.mono (List.subset_append_right _ _))⟩
theorem heldItems_of_stays (vs : List Value) {cs : List Cell} {as : List Nat}
    (h : HeldItems m vs cs as) (hm : Stays as m m') : HeldItems m' vs cs as := by
  match vs with
  | [] => exact h
  | v :: vs =>
    obtain ⟨c, ds, bs, bs', rfl, rfl, hc, hds⟩ := h
    exact ⟨c, ds, bs, bs', rfl, rfl, held_of_stays v hc (hm.mono (List.subset_append_left _ _)),
      heldItems_of_stays vs hds (hm.mono (List.subset_append_right _ _))⟩
end

/-- The addresses of what is put after a memory. -/
def addresses (m new : Memory) : List Nat := List.range' m.length new.length

theorem addresses_append (m new new' : Memory) :
    addresses m (new ++ new') = addresses m new ++ addresses (m ++ new) new' := by
  rw [addresses, addresses, addresses, List.length_append, List.length_append, List.range'_append_1]

theorem addresses_singleton (m : Memory) (t : Container) : addresses m [t] = [m.length] := rfl

theorem getElem?_concat (m : Memory) (t : Container) : (m ++ [t])[m.length]? = some t := by
  rw [List.getElem?_append_right (Nat.le_refl _), Nat.sub_self]
  rfl

/-- What is copied is held as before, all of it by what is new, and each part of it at addresses of its
own, also where one record or list stands at many places of it. -/
def Copies (copy : Memory → Cell → Option (Memory × Cell)) (v : Value) : Prop :=
  ∀ m c as, Held m v c as →
    ∃ new d, copy m c = some (m ++ new, d) ∧ Held (m ++ new) v d (addresses m new)

theorem copyFields_held {copy : Memory → Cell → Option (Memory × Cell)} {fs : List (String × Value)}
    (hcopy : ∀ e ∈ fs, Copies copy e.2) {m : Memory} {cs : List (String × Cell)} {as : List Nat}
    (h : HeldFields m fs cs as) :
    ∃ new ds, copyFields copy m cs = some (m ++ new, ds) ∧
      HeldFields (m ++ new) fs ds (addresses m new) := by
  induction fs generalizing m cs as with
  | nil =>
    cases h
    refine ⟨[], [], ?_, rfl⟩
    rw [copyFields, List.append_nil]
  | cons e fs ih =>
    obtain ⟨k, v⟩ := e
    obtain ⟨hv, hfs⟩ := List.forall_mem_cons.mp hcopy
    obtain ⟨c, cs, bs, bs', rfl, -, hc, hcs⟩ := h
    obtain ⟨new, d, hfirst, hd⟩ := hv m c bs hc
    obtain ⟨new', ds, hrest, hds⟩ := ih hfs (heldFields_of_stays fs hcs (stays_append _ m new))
    refine ⟨new ++ new', (k, d) :: ds, ?_, ?_⟩
    · rw [copyFields, ← List.append_assoc]
      simp only [hfirst, hrest, Option.bind_eq_bind, Option.bind_some]
    · rw [addresses_append, ← List.append_assoc]
      exact ⟨d, ds, _, _, rfl, rfl, held_of_stays v hd (stays_append _ _ _), hds⟩

theorem copyItems_held {copy : Memory → Cell → Option (Memory × Cell)} {vs : List Value}
    (hcopy : ∀ v ∈ vs, Copies copy v) {m : Memory} {cs : List Cell} {as : List Nat}
    (h : HeldItems m vs cs as) :
    ∃ new ds, copyItems copy m cs = some (m ++ new, ds) ∧
      HeldItems (m ++ new) vs ds (addresses m new) := by
  induction vs generalizing m cs as with
  | nil =>
    cases h
    refine ⟨[], [], ?_, rfl⟩
    rw [copyItems, List.append_nil]
  | cons v vs ih =>
    obtain ⟨hv, hvs⟩ := List.forall_mem_cons.mp hcopy
    obtain ⟨c, cs, bs, bs', rfl, -, hc, hcs⟩ := h
    obtain ⟨new, d, hfirst, hd⟩ := hv m c bs hc
    obtain ⟨new', ds, hrest, hds⟩ := ih hvs (heldItems_of_stays vs hcs (stays_append _ m new))
    refine ⟨new ++ new', d :: ds, ?_, ?_⟩
    · rw [copyItems, ← List.append_assoc]
      simp only [hfirst, hrest, Option.bind_eq_bind, Option.bind_some]
    · rw [addresses_append, ← List.append_assoc]
      exact ⟨d, ds, _, _, rfl, rfl, held_of_stays v hd (stays_append _ _ _), hds⟩

/- A record or list is larger than what is in it, so that the size of a value is deep enough. -/

theorem size_field {fs : List (String × Value)} {n : Nat} (h : sizeOf (Value.record fs) ≤ n + 1) :
    ∀ e ∈ fs, sizeOf e.2 ≤ n := by
  rintro ⟨k, v⟩ he
  have hlt := List.sizeOf_lt_of_mem he
  simp only [Prod.mk.sizeOf_spec, Value.record.sizeOf_spec] at hlt h ⊢
  omega

theorem size_item {vs : List Value} {n : Nat} (h : sizeOf (Value.list vs) ≤ n + 1) :
    ∀ v ∈ vs, sizeOf v ≤ n := by
  intro v hv
  have hlt := List.sizeOf_lt_of_mem hv
  simp only [Value.list.sizeOf_spec] at h
  omega

theorem copyCell_copies {n : Nat} {v : Value} (hn : sizeOf v ≤ n) : Copies (copyCell n) v := by
  induction n generalizing v with
  | zero => cases v <;> simp at hn
  | succ n ih =>
    intro m c as h
    cases v with
    | record fs =>
      obtain ⟨a, bs, cs, rfl, -, ha, hcs⟩ := h
      have hfs : ∀ e ∈ fs, Copies (copyCell n) e.2 := fun e he => ih (size_field hn e he)
      obtain ⟨new, ds, hcopy, hds⟩ := copyFields_held hfs hcs
      refine ⟨new ++ [.record ds], .ref (m ++ new).length, ?_, ?_⟩
      · rw [copyCell, ha, ← List.append_assoc]
        simp only [hcopy, Option.bind_eq_bind, Option.bind_some]
      · rw [addresses_append, addresses_singleton, ← List.append_assoc]
        have hds' := heldFields_of_stays fs hds (stays_append _ _ [.record ds])
        exact ⟨_, _, ds, rfl, rfl, getElem?_concat _ _, hds'⟩
    | list vs =>
      obtain ⟨a, bs, cs, rfl, -, ha, hcs⟩ := h
      have hvs : ∀ v ∈ vs, Copies (copyCell n) v := fun v hv => ih (size_item hn v hv)
      obtain ⟨new, ds, hcopy, hds⟩ := copyItems_held hvs hcs
      refine ⟨new ++ [.list ds], .ref (m ++ new).length, ?_, ?_⟩
      · rw [copyCell, ha, ← List.append_assoc]
        simp only [hcopy, Option.bind_eq_bind, Option.bind_some]
      · rw [addresses_append, addresses_singleton, ← List.append_assoc]
        have hds' := heldItems_of_stays vs hds (stays_append _ _ [.list ds])
        exact ⟨_, _, ds, rfl, rfl, getElem?_concat _ _, hds'⟩
    | _ =>
      cases h
      refine ⟨[], _, ?_, rfl⟩
      rw [copyCell, List.append_nil]

/-- Only what stands at some addresses has changed. -/
structure Changes (as : List Nat) (m m' : Memory) : Prop where
  length : m'.length = m.length
  rest : ∀ b, b ∉ as → m'[b]? = m[b]?

theorem Changes.refl (as : List Nat) (m : Memory) : Changes as m m := ⟨rfl, fun _ _ => rfl⟩

theorem Changes.trans {m₁ m₂ m₃ : Memory} {cs : List Nat} (h : Changes as m₁ m₂)
    (h' : Changes bs m₂ m₃) (has : as ⊆ cs) (hbs : bs ⊆ cs) : Changes cs m₁ m₃ where
  length := h'.length.trans h.length
  rest b hb := (h'.rest b fun hmem => hb (hbs hmem)).trans (h.rest b fun hmem => hb (has hmem))

theorem Changes.mono (h : Changes as m m') (hsub : as ⊆ bs) : Changes bs m m' :=
  h.trans (.refl as m') hsub hsub

theorem Changes.stays (h : Changes bs m m') (hdisj : as.Disjoint bs) : Stays as m m' := by
  intro a ha t ht
  rw [h.rest a fun hb => hdisj ha hb, ht]

/-- Where only what was put after a memory has changed, the memory itself stays. -/
theorem Changes.extends {new : Memory} (h : Changes (addresses m new) (m ++ new) m') : m <+: m' := by
  rw [List.prefix_iff_getElem?]
  intro a ha
  have hold : a ∉ addresses m new := by
    intro hmem
    have hle := (List.mem_range'_1.mp hmem).1
    omega
  rw [h.rest a hold, List.getElem?_append_left ha, List.getElem?_eq_getElem ha]

theorem changes_write (m : Memory) (a i : Nat) (c : Cell) : Changes [a] m (write m a i c) where
  length := List.length_modify ..
  rest b hb := by
    rw [write, List.getElem?_modify_ne]
    intro h
    exact hb (List.mem_singleton.mpr h.symm)

theorem getElem?_write {a : Nat} {ds cs : List (String × Cell)} {k : String} {c : Cell}
    (h : m[a]? = some (.record (ds ++ (k, c) :: cs))) (d : Cell) :
    (write m a ds.length d)[a]? = some (.record (ds ++ (k, d) :: cs)) := by
  have hmodify : (ds ++ (k, c) :: cs).modify ds.length (fun f => (f.1, d)) = ds ++ (k, d) :: cs := by
    rw [List.modify_eq_take_drop, List.take_left, List.drop_left]
    rfl
  rw [write, List.getElem?_modify_eq, h]
  exact congrArg (fun cs => some (Container.record cs)) hmodify

/-- What is masked in place is held as the masked value, at the same addresses, and nothing else has
changed. -/
def MasksInPlace (hit : String → Bool) (inside : Memory → Cell → Option Memory) (v : Value) : Prop :=
  ∀ m c as, Held m v c as → as.Nodup →
    ∃ m', inside m c = some m' ∧ Changes as m m' ∧ Held m' (maskValue hit v) c as

variable {inside : Memory → Cell → Option Memory}

/-- One field is masked, and the others are left for later. -/
theorem maskFieldCells_cons {k : String} {v : Value} (hv : MasksInPlace hit inside v) {c : Cell}
    {a : Nat} {before cs : List (String × Cell)} (hc : Held m v c bs) (hbs : bs.Nodup) (hab : a ∉ bs)
    (ha : m[a]? = some (.record (before ++ (k, c) :: cs))) :
    ∃ m' d, maskFieldCells hit inside a m before.length ((k, c) :: cs) =
        maskFieldCells hit inside a m' (before.length + 1) cs ∧
      Changes (bs ++ [a]) m m' ∧ m'[a]? = some (.record (before ++ (k, d) :: cs)) ∧
      Held m' (if hit k then mask else maskValue hit v) d bs := by
  rw [maskFieldCells]
  by_cases hk : hit k
  · rw [if_pos hk, if_pos hk]
    refine ⟨write m a before.length (.leaf mask), .leaf mask, rfl, ?_, getElem?_write ha _, rfl⟩
    exact (changes_write m a _ _).mono (List.subset_append_right _ _)
  · rw [if_neg hk, if_neg hk]
    obtain ⟨m', hmask, hchanges, hc'⟩ := hv m c bs hc hbs
    have ha' : m'[a]? = m[a]? := hchanges.rest a hab
    refine ⟨m', c, ?_, hchanges.mono (List.subset_append_left _ _), ha'.trans ha, hc'⟩
    rw [hmask]
    rfl

/-- The fields gone through already are those before the position. -/
theorem maskFieldCells_held {fs : List (String × Value)}
    (hmask : ∀ e ∈ fs, MasksInPlace hit inside e.2) (before : List (String × Cell)) {m : Memory}
    {a : Nat} {cs : List (String × Cell)} {as : List Nat} (h : HeldFields m fs cs as)
    (has : (as ++ [a]).Nodup) (ha : m[a]? = some (.record (before ++ cs))) :
    ∃ m' ds, maskFieldCells hit inside a m before.length cs = some m' ∧ Changes (as ++ [a]) m m' ∧
      m'[a]? = some (.record (before ++ ds)) ∧ HeldFields m' (maskFields hit fs) ds as := by
  induction fs generalizing m before cs as with
  | nil =>
    cases h
    refine ⟨m, [], rfl, .refl _ m, ha, ?_⟩
    rw [maskFields]
    rfl
  | cons e fs ih =>
    obtain ⟨k, v⟩ := e
    obtain ⟨hv, hfs⟩ := List.forall_mem_cons.mp hmask
    obtain ⟨c, cs, bs, bs', rfl, rfl, hc, hcs⟩ := h
    rw [List.append_assoc] at has
    obtain ⟨hbs, hrest, hdisj⟩ := List.nodup_append'.mp has
    obtain ⟨-, -, haway⟩ := List.nodup_append'.mp hrest
    have hab : a ∉ bs := fun hmem => hdisj hmem (by simp)
    obtain ⟨m₁, d, hstep, hchanges, ha₁, hd⟩ := maskFieldCells_cons hv hc hbs hab ha
    have hcs₁ : HeldFields m₁ fs cs bs' := by
      apply heldFields_of_stays fs hcs (hchanges.stays _)
      exact List.disjoint_append_right.mpr ⟨fun b hb' hb => hdisj hb (by simp [hb']), haway⟩
    rw [List.append_cons] at ha₁
    obtain ⟨m₂, ds, hsteps, hchanges', ha₂, hds⟩ := ih hfs _ hcs₁ hrest ha₁
    refine ⟨m₂, (k, d) :: ds, ?_, ?_, ?_, ?_⟩
    · rw [List.length_append] at hsteps
      exact hstep.trans hsteps
    · apply hchanges.trans hchanges'
      · exact List.append_subset.mpr ⟨by simp, by simp⟩
      · simp
    · rw [List.append_cons, ha₂]
    · rw [maskFields]
      exact ⟨d, ds, bs, bs', rfl, rfl, held_of_stays _ hd (hchanges'.stays hdisj), hds⟩

theorem foldlM_held {vs : List Value} (hmask : ∀ v ∈ vs, MasksInPlace hit inside v) {m : Memory}
    {cs : List Cell} {as : List Nat} (h : HeldItems m vs cs as) (has : as.Nodup) :
    ∃ m', cs.foldlM inside m = some m' ∧ Changes as m m' ∧
      HeldItems m' (maskItems hit vs) cs as := by
  induction vs generalizing m cs as with
  | nil =>
    cases h
    refine ⟨m, rfl, .refl as m, ?_⟩
    rw [maskItems]
    rfl
  | cons v vs ih =>
    obtain ⟨hv, hvs⟩ := List.forall_mem_cons.mp hmask
    obtain ⟨c, cs, bs, bs', rfl, rfl, hc, hcs⟩ := h
    obtain ⟨hbs, hbs', hdisj⟩ := List.nodup_append'.mp has
    obtain ⟨m₁, hfirst, hchanges, hc₁⟩ := hv m c bs hc hbs
    have hcs₁ := heldItems_of_stays vs hcs (hchanges.stays (List.disjoint_symm hdisj))
    obtain ⟨m₂, hrest, hchanges', hcs₂⟩ := ih hvs hcs₁ hbs'
    refine ⟨m₂, ?_, ?_, ?_⟩
    · rw [List.foldlM_cons, hfirst]
      exact hrest
    · exact hchanges.trans hchanges' (List.subset_append_left _ _) (List.subset_append_right _ _)
    · rw [maskItems]
      exact ⟨c, cs, bs, bs', rfl, rfl, held_of_stays _ hc₁ (hchanges'.stays hdisj), hcs₂⟩

theorem maskCell_masksInPlace (hit : String → Bool) {n : Nat} {v : Value} (hn : sizeOf v ≤ n) :
    MasksInPlace hit (maskCell hit n) v := by
  induction n generalizing v with
  | zero => cases v <;> simp at hn
  | succ n ih =>
    intro m c as h has
    cases v with
    | record fs =>
      obtain ⟨a, bs, cs, rfl, rfl, ha, hcs⟩ := h
      have hfs : ∀ e ∈ fs, MasksInPlace hit (maskCell hit n) e.2 :=
        fun e he => ih (size_field hn e he)
      obtain ⟨m', ds, hmask, hchanges, ha', hds⟩ := maskFieldCells_held hfs [] hcs has ha
      refine ⟨m', ?_, hchanges, ?_⟩
      · rw [maskCell, ha]
        exact hmask
      · rw [maskValue]
        exact ⟨a, bs, ds, rfl, rfl, ha', hds⟩
    | list vs =>
      obtain ⟨a, bs, cs, rfl, rfl, ha, hcs⟩ := h
      have hvs : ∀ v ∈ vs, MasksInPlace hit (maskCell hit n) v := fun v hv => ih (size_item hn v hv)
      obtain ⟨hbs, -, hdisj⟩ := List.nodup_append'.mp has
      obtain ⟨m', hmask, hchanges, hcs'⟩ := foldlM_held hvs hcs hbs
      have hab : a ∉ bs := fun hmem => hdisj hmem (by simp)
      have ha' : m'[a]? = some (.list cs) := (hchanges.rest a hab).trans ha
      refine ⟨m', ?_, hchanges.mono (List.subset_append_left _ _), ?_⟩
      · rw [maskCell, ha]
        exact hmask
      · rw [maskValue]
        exact ⟨a, bs, cs, rfl, rfl, ha', hcs'⟩
    | _ =>
      cases h
      refine ⟨m, rfl, .refl as m, ?_⟩
      simp only [maskValue]
      rfl

theorem maskedCopy_holds (hit : String → Bool) {n : Nat} {v : Value} {c : Cell} (h : Holds m v c)
    (hn : sizeOf v ≤ n) :
    ∃ m' d, maskedCopy hit n m c = some (m', d) ∧ m <+: m' ∧ Holds m' (maskValue hit v) d := by
  obtain ⟨as, h⟩ := h
  obtain ⟨new, d, hcopy, hd⟩ := copyCell_copies hn m c as h
  have hnodup : (addresses m new).Nodup := List.nodup_range' _
  obtain ⟨m', hmask, hchanges, hd'⟩ := maskCell_masksInPlace hit hn _ d _ hd hnodup
  refine ⟨m', d, ?_, hchanges.extends, _, hd'⟩
  simp only [maskedCopy, hcopy, hmask, Option.bind_eq_bind, Option.bind_some]

theorem Holds.mono {v : Value} {c : Cell} (h : Holds m v c) (hm : m <+: m') : Holds m' v c := by
  obtain ⟨as, h⟩ := h
  obtain ⟨new, rfl⟩ := hm
  exact ⟨as, held_of_stays v h (stays_append as m new)⟩

/-- Deep enough, what is made of a result in memory is the masked result, and nothing that stood there
before has changed. -/
theorem maskedCopies_holds {r : Result} {b : Option Cell} {c : Cell} (h : HoldsResult m r b c) :
    ∃ depth, ∀ n, depth ≤ n → ∃ m' e d, maskedCopies hit n m b c = some (m', e, d) ∧ m <+: m' ∧
      HoldsResult m' (maskResult hit r) e d := by
  refine ⟨max (sizeOf (Value.record (r.bindings.getD []))) (sizeOf r.value), fun n hn => ?_⟩
  obtain ⟨hnb, hnv⟩ := Nat.max_le.mp hn
  obtain ⟨hbindings, hvalue⟩ := h
  generalize hr : r.bindings = rb at hbindings hnb
  cases hbindings with
  | none =>
    obtain ⟨m', d, hcopy, hm, hd⟩ := maskedCopy_holds hit hvalue hnv
    refine ⟨m', none, d, ?_, hm, ?_, hd⟩
    · rw [maskedCopies, hcopy]
      rfl
    · rw [maskResult, hr]
      exact .none
  | @some fs b hb =>
    obtain ⟨m₁, e, hcopy, hm₁, he⟩ := maskedCopy_holds hit hb hnb
    obtain ⟨m₂, d, hcopy', hm₂, hd⟩ := maskedCopy_holds hit (hvalue.mono hm₁) hnv
    refine ⟨m₂, some e, d, ?_, hm₁.trans hm₂, ?_, hd⟩
    · rw [maskedCopies, hcopy]
      simp only [hcopy', Option.bind_eq_bind, Option.bind_some]
    · rw [maskResult, hr]
      rw [maskValue] at he
      exact .some (he.mono hm₂)

end Courier.Masking
