import Courier.Proofs.Store.Copied
import Courier.Proofs.Value.Outline
import Courier.Store.Memory

/-! What masking leaves as it is.
A place that no key which matches stands on the way to has the outline that it had before, and under
the first key that matches there is just the mask. Nothing else can be said of the masked value: these
two facts give it. -/
namespace Courier.Masking

open Value

variable {hit : String → Bool}

/-- No key on the way to a place matches. -/
def Clear (hit : String → Bool) (p : List Step) : Prop := ∀ k, Step.field k ∈ p → hit k = false

theorem clear_cons {s : Step} {p : List Step} :
    Clear hit (s :: p) ↔ (∀ k, s = .field k → hit k = false) ∧ Clear hit p := by
  simp only [Clear, List.mem_cons]
  constructor
  · intro h
    exact ⟨fun k hk => h k (.inl hk.symm), fun k hk => h k (.inr hk)⟩
  · rintro ⟨hs, hp⟩ k (hk | hk)
    · exact hs k hk.symm
    · exact hp k hk

/-- On the way to a place either no key matches, or there is a first one that does. -/
theorem clear_or_first (hit : String → Bool) (p : List Step) :
    Clear hit p ∨ ∃ q k rest, p = q ++ .field k :: rest ∧ Clear hit q ∧ hit k = true := by
  induction p with
  | nil => exact .inl nofun
  | cons s p ih =>
    by_cases hs : ∀ k, s = .field k → hit k = false
    · obtain hp | ⟨q, k, rest, rfl, hq, hk⟩ := ih
      · exact .inl (clear_cons.mpr ⟨hs, hp⟩)
      · exact .inr ⟨s :: q, k, rest, rfl, clear_cons.mpr ⟨hs, hq⟩, hk⟩
    · push Not at hs
      obtain ⟨k, rfl, hk⟩ := hs
      exact .inr ⟨[], k, p, rfl, nofun, by simpa using hk⟩

theorem get?_maskFields (fs : List (String × Value)) (k : String) :
    Keyed.get? (maskFields hit fs) k =
      (Keyed.get? fs k).map fun v => if hit k then mask else maskValue hit v := by
  induction fs with
  | nil => rw [maskFields]; rfl
  | cons e fs ih =>
    obtain ⟨j, v⟩ := e
    rw [maskFields, Keyed.get?, Keyed.get?]
    by_cases hj : j = k
    · rw [if_pos hj, if_pos hj, hj]
      rfl
    · rw [if_neg hj, if_neg hj, ih]

theorem keys_maskFields (fs : List (String × Value)) :
    Keyed.keys (maskFields hit fs) = Keyed.keys fs := by
  induction fs with
  | nil => rw [maskFields]
  | cons e fs ih =>
    obtain ⟨k, v⟩ := e
    rw [maskFields]
    exact congrArg (k :: ·) ih

theorem outline_maskValue (v : Value) : (maskValue hit v).outline = v.outline := by
  cases v with
  | record fs => rw [maskValue, outline, outline, keys_maskFields]
  | list vs => rw [maskValue, outline, outline, maskItems_eq_map, List.length_map]
  | _ => simp only [maskValue]

theorem child?_maskValue_field (v : Value) (k : String) :
    (maskValue hit v).child? (.field k) =
      (v.child? (.field k)).map fun w => if hit k then mask else maskValue hit w := by
  cases v with
  | record fs => rw [maskValue, child?, child?, get?_maskFields]
  | list vs => rw [maskValue]; rfl
  | _ => simp only [maskValue]; rfl

theorem child?_maskValue_item (v : Value) (i : Nat) :
    (maskValue hit v).child? (.item i) = (v.child? (.item i)).map (maskValue hit) := by
  cases v with
  | record fs => rw [maskValue]; rfl
  | list vs => rw [maskValue, child?, child?, maskItems_eq_map, List.getElem?_map]
  | _ => simp only [maskValue]; rfl

/-- Where no key matches on the way, masking is masking of what stands there. -/
theorem at?_maskValue {p : List Step} (hp : Clear hit p) (v : Value) :
    (maskValue hit v).at? p = (v.at? p).map (maskValue hit) := by
  induction p generalizing v with
  | nil => rfl
  | cons s p ih =>
    obtain ⟨hs, hp⟩ := clear_cons.mp hp
    have hstep : (maskValue hit v).child? s = (v.child? s).map (maskValue hit) := by
      cases s with
      | field k =>
        rw [child?_maskValue_field, hs k rfl]
        rfl
      | item i => exact child?_maskValue_item v i
    rw [at?, at?, hstep]
    cases v.child? s with
    | none => rfl
    | some w => exact ih hp w

/-- What masking makes of a value, place by place. -/
structure Masks (hit : String → Bool) (v w : Value) : Prop where
  clear : ∀ p, Clear hit p → (w.at? p).map outline = (v.at? p).map outline
  first : ∀ p k, Clear hit p → hit k = true →
    w.at? (p ++ [.field k]) = (v.at? (p ++ [.field k])).map fun _ => mask

theorem masks_maskValue (v : Value) : Masks hit v (maskValue hit v) where
  clear p hp := by
    rw [at?_maskValue hp, Option.map_map]
    exact congrArg (fun f => (v.at? p).map f) (funext outline_maskValue)
  first p k hp hk := by
    rw [at?_append, at?_append, at?_maskValue hp]
    cases v.at? p with
    | none => rfl
    | some u =>
      change (maskValue hit u).at? [.field k] = (u.at? [.field k]).map fun _ => mask
      simp only [at?_singleton, child?_maskValue_field, if_pos hk]

/-- Below the first key that matches nothing is left of the value. -/
theorem Masks.below {v w : Value} (h : Masks hit v w) {p : List Step} {k : String} (hp : Clear hit p)
    (hk : hit k = true) (s : Step) (rest : List Step) : w.at? (p ++ .field k :: s :: rest) = none := by
  have hsplit : p ++ Step.field k :: s :: rest = (p ++ [.field k]) ++ (s :: rest) := by simp
  rw [hsplit, at?_append, h.first p k hp hk]
  cases v.at? (p ++ [.field k]) <;> rfl

theorem Masks.at?_of_first {u v w : Value} (h : Masks hit v w) (hu : Masks hit v u) {p : List Step}
    {k : String} (hp : Clear hit p) (hk : hit k = true) (rest : List Step) :
    w.at? (p ++ .field k :: rest) = u.at? (p ++ .field k :: rest) := by
  have hsplit : p ++ Step.field k :: rest = (p ++ [.field k]) ++ rest := by simp
  rw [hsplit, at?_append w, at?_append u, h.first p k hp hk, hu.first p k hp hk]

theorem distinct_maskValue {v : Value} (hv : v.Distinct) : (maskValue hit v).Distinct := by
  intro p gs hgs
  obtain hp | ⟨q, k, rest, rfl, hq, hk⟩ := clear_or_first hit p
  · have houtline := (masks_maskValue v).clear p hp
    rw [hgs] at houtline
    obtain ⟨u, hu, hkeys⟩ := Option.map_eq_some_iff.mp houtline.symm
    obtain ⟨fs, rfl, hfs⟩ := of_outline_record hkeys
    rw [← hfs]
    exact hv p fs hu
  · -- The mask is no record, and nothing stands below it.
    cases rest with
    | nil =>
      rw [(masks_maskValue v).first q k hq hk] at hgs
      obtain ⟨_, -, hmask⟩ := Option.map_eq_some_iff.mp hgs
      cases hmask
    | cons s rest =>
      rw [(masks_maskValue v).below hq hk] at hgs
      cases hgs

/-- The masked value is the only one of its outlines. -/
theorem Masks.eq {v w : Value} (h : Masks hit v w) (hv : v.Distinct) (hw : w.Distinct) :
    w = maskValue hit v := by
  apply eq_of_outlines hw (distinct_maskValue hv)
  intro p
  obtain hp | ⟨q, k, rest, rfl, hq, hk⟩ := clear_or_first hit p
  · rw [h.clear p hp, (masks_maskValue v).clear p hp]
  · rw [h.at?_of_first (masks_maskValue v) hq hk rest]

mutual
theorem maskValue_maskValue (v : Value) : maskValue hit (maskValue hit v) = maskValue hit v := by
  match v with
  | .record fs => rw [maskValue, maskValue, maskFields_maskFields fs]
  | .list vs => rw [maskValue, maskValue, maskItems_maskItems vs]
  | .null | .bool _ | .text _ | .int _ _ | .float _ | .single _ | .bytes _ | .texts _ | .table _
  | .time _ => simp only [maskValue]
theorem maskFields_maskFields (fs : List (String × Value)) :
    maskFields hit (maskFields hit fs) = maskFields hit fs := by
  match fs with
  | [] => rw [maskFields, maskFields]
  | (k, v) :: fs =>
    have hfield : (if hit k then mask else maskValue hit (if hit k then mask else maskValue hit v)) =
        if hit k then mask else maskValue hit v := by
      split
      · rfl
      · exact maskValue_maskValue v
    rw [maskFields, maskFields, hfield, maskFields_maskFields fs]
theorem maskItems_maskItems (vs : List Value) :
    maskItems hit (maskItems hit vs) = maskItems hit vs := by
  match vs with
  | [] => rw [maskItems, maskItems]
  | v :: vs => rw [maskItems, maskItems, maskValue_maskValue v, maskItems_maskItems vs]
end

/-- A masked result is masked already. -/
theorem maskResult_maskResult (r : Result) : maskResult hit (maskResult hit r) = maskResult hit r := by
  have hbindings : (r.bindings.map (maskFields hit)).map (maskFields hit) =
      r.bindings.map (maskFields hit) := by
    rw [Option.map_map]
    exact congrArg (fun f => r.bindings.map f) (funext maskFields_maskFields)
  simp only [maskResult, hbindings, maskValue_maskValue]

/-- What masking makes of a result: all but its bindings and its value stays, no bindings stay none, and
the others are masked as a record. -/
structure MasksResult (hit : String → Bool) (r m : Result) : Prop where
  rest : m = { r with bindings := m.bindings, value := m.value }
  bindings : Option.Rel (fun b c => Masks hit (.record b) (.record c)) r.bindings m.bindings
  value : Masks hit r.value m.value

/-- In no record of a result does a key stand twice. -/
structure DistinctResult (r : Result) : Prop where
  bindings : ∀ b, r.bindings = some b → (Value.record b).Distinct
  value : r.value.Distinct

theorem masksResult_maskResult (r : Result) : MasksResult hit r (maskResult hit r) where
  rest := rfl
  bindings := by
    rw [maskResult]
    cases r.bindings with
    | none => exact .none
    | some b =>
      have hrecord : Masks hit (.record b) (maskValue hit (.record b)) := masks_maskValue _
      rw [maskValue] at hrecord
      exact .some hrecord
  value := masks_maskValue r.value

theorem MasksResult.eq {r m : Result} (h : MasksResult hit r m) (hr : DistinctResult r)
    (hm : DistinctResult m) : m = maskResult hit r := by
  obtain ⟨hrest, hbindings, hvalue⟩ := h
  have hv : m.value = maskValue hit r.value := hvalue.eq hr.value hm.value
  have hb : m.bindings = r.bindings.map (maskFields hit) := by
    generalize hrb : r.bindings = rb at hbindings
    generalize hmb : m.bindings = mb at hbindings
    cases hbindings with
    | none => rfl
    | @some b c hbc =>
      have hrecord := hbc.eq (hr.bindings b hrb) (hm.bindings c hmb)
      rw [maskValue] at hrecord
      exact congrArg some (Value.record.inj hrecord)
  rw [hrest, hv, hb]
  rfl

/-- A store behind the mask is handed a result that is the one given, but for the values under keys that
match. No other result is such, and saving it again hands on the same. It is made in memory next to the
one given, of which nothing changes. The other calls go straight to the store behind. -/
theorem layer_keeps {σ : Type} (hit : String → Bool) (next : ResultStore σ) :
    (∀ r : Result, ∃ m, MasksResult hit r m ∧
      (DistinctResult r → ∀ m', DistinctResult m' → MasksResult hit r m' → m' = m) ∧
      (∀ mem b c, HoldsResult mem r b c → ∃ depth, ∀ n, depth ≤ n → ∃ mem' e d,
        maskedCopies hit n mem b c = some (mem', e, d) ∧ mem <+: mem' ∧ HoldsResult mem' m e d) ∧
      ∀ s, (layer hit next).save r s = next.save m s ∧ (layer hit next).save m s = next.save m s) ∧
    (layer hit next).load = next.load ∧ (layer hit next).delete = next.delete ∧
    (layer hit next).list = next.list := by
  refine ⟨fun r => ?_, rfl, rfl, rfl⟩
  refine ⟨maskResult hit r, masksResult_maskResult r, ?_, ?_, fun s => ⟨rfl, ?_⟩⟩
  · intro hr m' hm' hmasks
    exact hmasks.eq hr hm'
  · intro mem b c hholds
    exact maskedCopies_holds hholds
  · exact congrArg (fun m => next.save m s) (maskResult_maskResult r)

/-- A record that is both a binding and the value of a result. -/
theorem layer_keeps_shared :
    let user : Value := .record [("ssn", .text "1")]
    let seen : Value := .record [("ssn", mask)]
    let r : Result :=
      { Result.blank with bindings := some [("ssn", .text "2"), ("user", user)], value := user }
    let m : Result :=
      { Result.blank with bindings := some [("ssn", mask), ("user", seen)], value := seen }
    let mem : Memory := [.record [("ssn", .leaf (.text "1"))],
      .record [("ssn", .leaf (.text "2")), ("user", .ref 0)]]
    DistinctResult r ∧ HoldsResult mem r (some (.ref 1)) (.ref 0) ∧ ∃ depth, ∀ n, depth ≤ n →
      ∃ mem' e d, maskedCopies (fun k => k == "ssn") n mem (some (.ref 1)) (.ref 0) = some (mem', e, d) ∧
        mem <+: mem' ∧ HoldsResult mem' m e d := by
  intro user seen r m mem
  have hdistinct : ∀ a b : String, DistinctResult { Result.blank with
      bindings := some [("ssn", .text a), ("user", .record [("ssn", .text b)])],
      value := .record [("ssn", .text b)] } := by
    intro a b
    have hvalue : (Value.record [("ssn", .text b)]).Distinct :=
      distinct_record (by simp [Keyed.keys]) (by simp [distinct_text])
    refine ⟨fun fs hfs => ?_, hvalue⟩
    obtain rfl := Option.some.inj hfs
    exact distinct_record (by simp [Keyed.keys]) (by simp [distinct_text, hvalue])
  have hvalue : Held mem user (.ref 0) [0] :=
    ⟨0, [], _, rfl, rfl, rfl, _, _, [], [], rfl, rfl, rfl, rfl⟩
  have hholds : HoldsResult mem r (some (.ref 1)) (.ref 0) := by
    refine ⟨.some ⟨[0, 1], ?_⟩, [0], hvalue⟩
    exact ⟨1, [0], _, rfl, rfl, rfl, _, _, [], [0], rfl, rfl, rfl, _, _, [0], [], rfl, rfl, hvalue, rfl⟩
  obtain ⟨m', hmasks, hunique, hcopies, -⟩ :=
    (layer_keeps (fun k => k == "ssn") MemoryStore.store).1 r
  have hm : m = m' := by
    apply hunique (hdistinct "2" "1") m (hdistinct "***" "***")
    exact masksResult_maskResult r
  rw [hm]
  exact ⟨hdistinct "2" "1", hholds, hcopies mem _ _ hholds⟩

end Courier.Masking
