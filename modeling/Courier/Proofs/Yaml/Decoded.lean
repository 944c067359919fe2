import Courier.Proofs.Fallible
import Courier.Proofs.Keyed
import Courier.Yaml.Load

/-! The values of YAML trees.
Every text is one, and so are a list of them and a record with one of them under a single name. What
such a value holds is the value of a tree again, also where a merge has put it in. -/
namespace Courier

namespace Value

theorem mem_insertEntry {key value : Value} {m : List (Value × Value)} {e : Value × Value}
    (h : e ∈ insertEntry key value m) : e = (key, value) ∨ e ∈ m := by
  induction m with
  | nil => exact .inl (List.mem_singleton.mp h)
  | cons f m ih =>
    rw [insertEntry] at h
    split_ifs at h
    · exact List.mem_cons.mp h
    · rcases List.mem_cons.mp h with rfl | h
      · exact .inr List.mem_cons_self
      · exact (ih h).imp_right (List.mem_cons_of_mem f)
    · exact (List.mem_cons.mp h).imp_right (List.mem_cons_of_mem f)

theorem mem_foldl_insertEntry {entries m : List (Value × Value)} {e : Value × Value}
    (h : e ∈ entries.foldl (fun m e => insertEntry e.1 e.2 m) m) : e ∈ m ∨ e ∈ entries := by
  induction entries generalizing m with
  | nil => exact .inl h
  | cons f entries ih =>
    rcases ih h with h | h
    · rcases mem_insertEntry h with rfl | h
      · exact .inr List.mem_cons_self
      · exact .inl h
    · exact .inr (List.mem_cons_of_mem f h)

/-- A value that holds no other values. -/
def isFlat : Value → Bool
  | .list _ => false
  | .record _ => false
  | .table _ => false
  | _ => true

end Value

namespace Yaml

namespace Plain

/-- A reading of a scalar that gives a flat value if it gives one. -/
def ReadsFlat (a : Option Value) : Prop := ∀ v, a = some v → v.isFlat = true

theorem readsFlat_orElse {a b : Option Value} (ha : ReadsFlat a) (hb : ReadsFlat b) :
    ReadsFlat (orElse a b) := by
  cases a with
  | none => exact hb
  | some v => exact ha

theorem readsFlat_word? (s : String) : ReadsFlat (word? s) := by
  intro v hv
  unfold word? at hv
  split_ifs at hv <;> cases hv <;> rfl

theorem readsFlat_integerOf (signed negative : Bool) (n : Nat) :
    ReadsFlat (integerOf signed negative n) := by
  intro v hv
  unfold integerOf int64? at hv
  split at hv
  · next hu => split_ifs at hu <;> cases hu <;> cases hv <;> rfl
  · split_ifs at hv
    cases hv
    rfl

theorem readsFlat_integer? (cs : List Char) : ReadsFlat (integer? cs) := by
  intro v hv
  obtain ⟨n, -, hn⟩ := Option.bind_eq_some_iff.mp hv
  exact readsFlat_integerOf _ _ n v hn

theorem readsFlat_markedInteger? (base : Nat) (outer : Bool) (cs : List Char) :
    ReadsFlat (markedInteger? base outer cs) := by
  intro v hv
  unfold markedInteger? at hv
  dsimp only at hv
  split_ifs at hv
  obtain ⟨n, -, hn⟩ := Option.bind_eq_some_iff.mp hv
  exact readsFlat_integerOf _ _ n v hn

theorem readsFlat_lateSign? (cs : List Char) : ReadsFlat (lateSign? cs) := by
  unfold lateSign?
  split
  · exact readsFlat_markedInteger? _ _ _
  · exact readsFlat_markedInteger? _ _ _
  · exact readsFlat_markedInteger? _ _ _
  · exact readsFlat_markedInteger? _ _ _
  · nofun

theorem readsFlat_double? (cs : List Char) : ReadsFlat (double? cs) := by
  intro v hv
  unfold double? at hv
  dsimp only at hv
  split_ifs at hv
  cases hv
  rfl

theorem readsFlat_time (t : Option Instant) : ReadsFlat (t.map Value.time) := by
  intro v hv
  obtain ⟨t, -, rfl⟩ := Option.map_eq_some_iff.mp hv
  rfl

theorem isFlat_value (s : String) : (value s).isFlat = true := by
  -- Whatever the readings find, the text itself is flat.
  have hgetD {a : Option Value} (h : ReadsFlat a) : (a.getD (.text s)).isFlat = true := by
    cases a with
    | none => rfl
    | some v => exact h v rfl
  unfold value
  split
  · next v hv => exact readsFlat_word? s v hv
  · apply hgetD
    split
    · split_ifs
      · exact readsFlat_double? _
      · nofun
    · split_ifs
      · exact readsFlat_orElse (readsFlat_time _) (readsFlat_orElse (readsFlat_integer? _)
          (readsFlat_orElse (readsFlat_double? _) (readsFlat_lateSign? _)))
      · nofun
    · nofun

end Plain

theorem isFlat_of_scalarValue {tag text : String} {plain : Bool} {v : Value}
    (h : scalarValue tag text plain = .ok v) : v.isFlat = true := by
  unfold scalarValue at h
  dsimp only at h
  split at h
  · cases h
    split_ifs
    · exact Plain.isFlat_value text
    · rfl
  split at h
  · split at h <;> cases h
    rfl
  split at h
  · split at h
    · cases h
      exact Plain.isFlat_value text
    · split at h
      · split_ifs at h
        cases h
        rfl
      · cases h
  · cases h
    rfl

/-- Some tree has the value. -/
def Decoded (v : Value) : Prop := ∃ n : Node, n.value = .ok v

namespace Decoded

theorem null : Decoded .null := ⟨.empty, rfl⟩

theorem text (s : String) : Decoded (.text s) := ⟨.scalar "!!str" s false, rfl⟩

theorem list {vs : List Value} (h : ∀ v ∈ vs, Decoded v) : Decoded (.list vs) := by
  have hitems : ∃ ns, Node.values ns = .ok vs := by
    induction vs with
    | nil => exact ⟨[], rfl⟩
    | cons v vs ih =>
      obtain ⟨⟨n, hn⟩, hvs⟩ := List.forall_mem_cons.mp h
      obtain ⟨ns, hns⟩ := ih hvs
      refine ⟨n :: ns, ?_⟩
      rw [Node.values, hn, hns]
      rfl
  obtain ⟨ns, hns⟩ := hitems
  refine ⟨.sequence ns, ?_⟩
  rw [Node.value, hns]
  rfl

/-- A value under a single name. -/
theorem tagged (name : String) {v : Value} (h : Decoded v) : Decoded (.record [(name, v)]) := by
  obtain ⟨n, hn⟩ := h
  let key : Node := .scalar "!!str" name false
  -- A quoted key is a text and asks for no merge, whatever it says.
  have hmerge : key.isMerge = false := by simp [key, Node.isMerge]
  have hown : Node.fillOwn [(key, n)] ⟨true, none, []⟩ = .ok ⟨true, none, [(.text name, v)]⟩ := by
    rw [Node.fillOwn, hmerge]
    change (n.value >>= fun v => Node.fillOwn [] (Filling.add ⟨true, none, []⟩ (.text name) v)) = _
    rw [hn]
    rfl
  have hmerged (f : Filling) : Node.fillMerged [(key, n)] f = .ok f := by
    rw [Node.fillMerged, hmerge]
    rfl
  have htexts : ([(key, n)].all fun e => e.1.isMerge || e.1.isText) = true := by
    rw [List.all_cons, hmerge]
    rfl
  refine ⟨.mapping [(key, n)], ?_⟩
  rw [Node.value, htexts, hown]
  change (Node.fillMerged [(key, n)] _ >>= fun f => .ok f.value) = _
  rw [hmerged]
  rfl

end Decoded

namespace Filling

/-- Everything filled in so far is the value of a tree. -/
def Decoded (f : Filling) : Prop := ∀ e ∈ f.entries, Yaml.Decoded e.2

theorem Decoded.add {f : Filling} (h : f.Decoded) (key : Value) {v : Value} (hv : Yaml.Decoded v) :
    (f.add key v).Decoded := by
  intro e he
  rcases List.mem_append.mp he with he | he
  · exact h e he
  · rw [List.mem_singleton.mp he]
    exact hv

theorem Decoded.merging {f : Filling} (h : f.Decoded) (es : List (Node × Node)) :
    (f.merging es).Decoded := by
  unfold Filling.merging
  split
  · exact h
  · exact h

end Filling

namespace Node

theorem fillOwn_decoded {es : List (Node × Node)} {f f' : Filling} (hf : f.Decoded)
    (h : fillOwn es f = .ok f') : f'.Decoded := by
  induction es generalizing f with
  | nil =>
    cases h
    exact hf
  | cons e es ih =>
    obtain ⟨k, v⟩ := e
    rw [fillOwn] at h
    split_ifs at h
    · exact ih hf h
    · obtain ⟨key, -, h⟩ := bind_eq_ok h
      split at h
      · exact ih hf h
      · split_ifs at h
        · exact ih hf h
        · obtain ⟨u, hu, h⟩ := bind_eq_ok h
          exact ih (hf.add _ ⟨v, hu⟩) h

mutual

theorem fillMerged_decoded (es : List (Node × Node)) (f f' : Filling) (hf : f.Decoded)
    (h : fillMerged es f = .ok f') : f'.Decoded := by
  match es with
  | [] =>
    cases h
    exact hf
  | (k, v) :: es =>
    rw [fillMerged] at h
    split_ifs at h
    · exact mergeInto_decoded v f f' hf h
    · exact fillMerged_decoded es f f' hf h

theorem mergeInto_decoded (n : Node) (f f' : Filling) (hf : f.Decoded)
    (h : n.mergeInto f = .ok f') : f'.Decoded := by
  match n with
  | .mapping es =>
    rw [mergeInto] at h
    obtain ⟨-, -, h⟩ := bind_eq_ok h
    obtain ⟨g, hg, h⟩ := bind_eq_ok h
    exact fillMerged_decoded es g f' (fillOwn_decoded hf hg) h
  | .alias name t =>
    rw [mergeInto] at h
    split_ifs at h
    exact mergeInto_decoded t f f' hf h
  | .sequence ns =>
    rw [mergeInto] at h
    exact mergeAll_decoded ns f f' hf h
  | .scalar tag text plain =>
    rw [mergeInto] at h
    cases h

theorem mergeAll_decoded (ns : List Node) (f f' : Filling) (hf : f.Decoded)
    (h : mergeAll ns f = .ok f') : f'.Decoded := by
  match ns with
  | [] =>
    cases h
    exact hf
  | n :: ns =>
    rw [mergeAll] at h
    split_ifs at h
    obtain ⟨g, hg, h⟩ := bind_eq_ok h
    exact mergeAll_decoded ns g f' (mergeInto_decoded n f g hf hg) h

end

theorem decoded_of_values {ns : List Node} {vs : List Value} (h : values ns = .ok vs) :
    ∀ v ∈ vs, Decoded v := by
  induction ns generalizing vs with
  | nil =>
    cases h
    nofun
  | cons n ns ih =>
    rw [values] at h
    obtain ⟨v, hv, h⟩ := bind_eq_ok h
    obtain ⟨vs', hvs, h⟩ := bind_eq_ok h
    cases h
    exact List.forall_mem_cons.mpr ⟨⟨n, hv⟩, ih hvs⟩

end Node

/-- The values that a value holds. -/
def held : Value → List Value
  | .list vs => vs
  | .record fs => fs.map Prod.snd
  | .table es => es.map Prod.snd
  | _ => []

theorem held_eq_nil {v : Value} (h : v.isFlat = true) : held v = [] := by
  cases v with
  | list | record | table => cases h
  | _ => rfl

theorem Filling.Decoded.held {f : Filling} (h : f.Decoded) : ∀ v ∈ Yaml.held f.value, Yaml.Decoded v := by
  intro v hv
  unfold Filling.value at hv
  split_ifs at hv
  · obtain ⟨e, he, rfl⟩ := List.mem_map.mp hv
    obtain ⟨e', he', hfield⟩ := List.mem_filterMap.mp (Keyed.mem_of_mem_ofList he)
    split at hfield
    · cases hfield
      exact h e' he'
    · cases hfield
  · obtain ⟨e, he, rfl⟩ := List.mem_map.mp hv
    exact h e ((Value.mem_foldl_insertEntry he).resolve_left List.not_mem_nil)

theorem Node.decoded_of_mem_held (n : Node) {v : Value} (hn : n.value = .ok v) :
    ∀ u ∈ held v, Decoded u := by
  match n with
  | .scalar tag text plain =>
    rw [Node.value] at hn
    rw [held_eq_nil (isFlat_of_scalarValue hn)]
    nofun
  | .sequence items =>
    rw [Node.value] at hn
    obtain ⟨vs, hvs, rfl⟩ := map_eq_ok hn
    exact Node.decoded_of_values hvs
  | .mapping es =>
    rw [Node.value] at hn
    obtain ⟨-, -, hn⟩ := bind_eq_ok hn
    obtain ⟨f, hf, hn⟩ := bind_eq_ok hn
    obtain ⟨f', hf', hn⟩ := bind_eq_ok hn
    cases hn
    have hown := Node.fillOwn_decoded (f := ⟨_, none, []⟩) (fun _ he => absurd he List.not_mem_nil) hf
    exact (Node.fillMerged_decoded es _ f' (hown.merging es) hf').held
  | .alias name t =>
    rw [Node.value] at hn
    exact decoded_of_mem_held t hn

/-- What the value of a tree holds is the value of a tree. -/
theorem Decoded.of_mem_held {v u : Value} (h : Decoded v) (hu : u ∈ held v) : Decoded u := by
  obtain ⟨n, hn⟩ := h
  exact n.decoded_of_mem_held hn u hu

end Yaml
end Courier
