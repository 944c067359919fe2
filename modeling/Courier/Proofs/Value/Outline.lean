import Courier.Proofs.Keyed
import Courier.Value.Basic

/-! Places inside values.
A place is reached by steps, each to the value under a key of a record or to an item of a list. What
stands at a place is given by its outline: the keys of a record, the length of a list, and all of any
other value. Values in which no key stands twice are known by their outlines. -/
namespace Courier.Value

/-- A step into a value. -/
inductive Step
  | field (key : String)
  | item (i : Nat)

/-- The value one step away. Only records and lists are stepped into. -/
def child? : Value → Step → Option Value
  | .record fs, .field k => Keyed.get? fs k
  | .list vs, .item i => vs[i]?
  | _, _ => none

/-- The value at a place. -/
def at? (v : Value) : List Step → Option Value
  | [] => some v
  | s :: p => (v.child? s).bind fun w => w.at? p

/-- A value without what stands below it. -/
inductive Outline
  | record (keys : List String)
  | list (length : Nat)
  | leaf (v : Value)

def outline : Value → Outline
  | .record fs => .record (Keyed.keys fs)
  | .list vs => .list vs.length
  | v => .leaf v

/-- In no record of a value does a key stand twice. -/
def Distinct (v : Value) : Prop := ∀ p fs, v.at? p = some (.record fs) → (Keyed.keys fs).Nodup

theorem at?_singleton (v : Value) (s : Step) : v.at? [s] = v.child? s := by
  rw [at?]
  cases v.child? s <;> rfl

theorem at?_append (v : Value) (p q : List Step) :
    v.at? (p ++ q) = (v.at? p).bind fun w => w.at? q := by
  induction p generalizing v with
  | nil => rfl
  | cons s p ih =>
    rw [List.cons_append, at?, at?, Option.bind_assoc]
    exact congrArg _ (funext fun w => ih w)

theorem Distinct.child {v w : Value} {s : Step} (h : v.Distinct) (hs : v.child? s = some w) :
    w.Distinct := by
  intro p fs hp
  apply h (s :: p) fs
  rw [at?, hs]
  exact hp

theorem distinct_text (s : String) : (text s).Distinct := by
  intro p fs hp
  cases p <;> cases hp

theorem distinct_record {fs : List (String × Value)} (hkeys : (Keyed.keys fs).Nodup)
    (h : ∀ e ∈ fs, e.2.Distinct) : (record fs).Distinct := by
  intro p gs hp
  cases p with
  | nil =>
    cases hp
    exact hkeys
  | cons s p =>
    obtain ⟨w, hw, hbelow⟩ := Option.bind_eq_some_iff.mp hp
    cases s with
    | field k => exact h (k, w) (Keyed.mem_of_get? hw) p gs hbelow
    | item i => cases hw

theorem sizeOf_child {v w : Value} {s : Step} (h : v.child? s = some w) : sizeOf w < sizeOf v := by
  unfold child? at h
  split at h
  · next fs k =>
    have hfield := List.sizeOf_lt_of_mem (Keyed.mem_of_get? h)
    simp only [Prod.mk.sizeOf_spec, record.sizeOf_spec] at hfield ⊢
    omega
  · next vs i =>
    have hitem := List.sizeOf_lt_of_mem (List.mem_of_getElem? h)
    simp only [list.sizeOf_spec]
    omega
  · cases h

theorem of_outline_record {v : Value} {ks : List String} (h : v.outline = .record ks) :
    ∃ fs, v = .record fs ∧ Keyed.keys fs = ks := by
  cases v with
  | record fs => exact ⟨fs, rfl, Outline.record.inj h⟩
  | _ => cases h

theorem of_outline_list {v : Value} {n : Nat} (h : v.outline = .list n) :
    ∃ vs, v = .list vs ∧ vs.length = n := by
  cases v with
  | list vs => exact ⟨vs, rfl, Outline.list.inj h⟩
  | _ => cases h

theorem of_outline_leaf {v w : Value} (h : v.outline = .leaf w) : v = w := by
  cases v with
  | record | list => cases h
  | _ => exact Outline.leaf.inj h

/-- Values in which no key stands twice are the same when their outlines are the same at all places. -/
theorem eq_of_outlines {u w : Value} (hu : u.Distinct) (hw : w.Distinct)
    (h : ∀ p, (u.at? p).map outline = (w.at? p).map outline) : u = w := by
  have hroot : w.outline = u.outline := (Option.some.inj (h [])).symm
  have hbelow : ∀ s, u.child? s = none ∧ w.child? s = none ∨
      ∃ a b, u.child? s = some a ∧ w.child? s = some b ∧ a = b := by
    intro s
    have hs := fun p => h (s :: p)
    simp only [at?] at hs
    cases ha : u.child? s with
    | none =>
      cases hb : w.child? s with
      | none => exact .inl ⟨rfl, rfl⟩
      | some b => simpa [ha, hb, at?] using hs []
    | some a =>
      cases hb : w.child? s with
      | none => simpa [ha, hb, at?] using hs []
      | some b =>
        have hab : ∀ p, (a.at? p).map outline = (b.at? p).map outline := by
          simpa [ha, hb] using hs
        exact .inr ⟨a, b, rfl, rfl, eq_of_outlines (hu.child ha) (hw.child hb) hab⟩
  have hchild : ∀ s, u.child? s = w.child? s := by
    intro s
    obtain ⟨ha, hb⟩ | ⟨a, b, ha, hb, hab⟩ := hbelow s
    · rw [ha, hb]
    · rw [ha, hb, hab]
  cases hkind : u.outline with
  | record ks =>
    obtain ⟨fs, rfl, hfs⟩ := of_outline_record hkind
    obtain ⟨gs, rfl, hgs⟩ := of_outline_record (hroot.trans hkind)
    exact congrArg record (Keyed.ext_get? (hfs.trans hgs.symm) (hu [] fs rfl) fun k => hchild (.field k))
  | list n =>
    obtain ⟨us, rfl, -⟩ := of_outline_list hkind
    obtain ⟨ws, rfl, -⟩ := of_outline_list (hroot.trans hkind)
    exact congrArg list (List.ext_getElem? fun i => hchild (.item i))
  | leaf v => rw [of_outline_leaf hkind, of_outline_leaf (hroot.trans hkind)]
termination_by sizeOf u
decreasing_by exact sizeOf_child ha

end Courier.Value
