import Courier.Proofs.Fallible
import Courier.Proofs.Json.RoundTrip
import Courier.Proofs.Keyed
import Courier.Proofs.Text.Cutting
import Courier.Schema.Decl

/-! How types and schemas are written, and that they are read as what they are.
`Typ.Spells` says which texts write a type: words and brackets, with blanks around them at every level.
Reading accepts just these. The name of a type is one of them, so it is read back, and so is the document
of a schema. -/
namespace Courier

namespace Typ

/-- The words for types. An empty one stands for any value. -/
def words : List (String × Typ) :=
  [("string", .string), ("int", .int), ("float", .float), ("number", .float), ("bool", .bool),
    ("object", .object), ("map", .object), ("any", .any), ("", .any)]

/-- The texts that write a type: one of its words, or the text of an element type in square brackets,
which is not empty. -/
inductive Spells : List Char → Typ → Prop
  | word {before after : List Char} {w : String} {t : Typ} (hbefore : Text.Blank before)
      (hafter : Text.Blank after) (hw : (w, t) ∈ words) : Spells (before ++ (w.toList ++ after)) t
  | slice {before inner after : List Char} {t : Typ} (hbefore : Text.Blank before)
      (hafter : Text.Blank after) (hne : inner ≠ []) (h : Spells inner t) :
      Spells (before ++ ('[' :: (inner ++ [']']) ++ after)) (.slice t)

theorem ofWord?_of_mem_words : ∀ e ∈ words, ofWord? e.1 = some e.2 := by decide

theorem mem_words_of_ofWord? {s : String} {t : Typ} (h : ofWord? s = some t) : (s, t) ∈ words := by
  rw [ofWord?] at h
  rw [words]
  split_ifs at h with hstring hint hfloat hbool hobject hany
  · simp [hstring, ← Option.some.inj h]
  · simp [hint, ← Option.some.inj h]
  · rcases hfloat with hs | hs <;> simp [hs, ← Option.some.inj h]
  · simp [hbool, ← Option.some.inj h]
  · rcases hobject with hs | hs <;> simp [hs, ← Option.some.inj h]
  · rcases hany with hs | hs <;> simp [hs, ← Option.some.inj h]

/-- A word has no blanks around it and does not start with a bracket. -/
theorem trimmed_of_mem_words : ∀ e ∈ words, Text.Trimmed e.1.toList := by
  have hhead : ∀ e ∈ words, e.1.toList.head?.all (! Text.isBlank ·) := by decide
  have hlast : ∀ e ∈ words, e.1.toList.getLast?.all (! Text.isBlank ·) := by decide
  intro e he
  exact {
    head := fun c hc => by simpa using Option.all_eq_true _ _ |>.mp (hhead e he) c hc
    last := fun c hc => by simpa using Option.all_eq_true _ _ |>.mp (hlast e he) c hc }

theorem unbracket?_of_mem_words : ∀ e ∈ words, unbracket? e.1.toList = none := by decide

theorem trimmed_brackets (inner : List Char) : Text.Trimmed ('[' :: (inner ++ [']'])) where
  head := fun c hc => by
    obtain rfl := Option.some.inj hc
    rfl
  last := fun c hc => by
    rw [← List.cons_append, List.getLast?_concat] at hc
    obtain rfl := Option.some.inj hc
    rfl

theorem unbracket?_brackets {inner : List Char} (hne : inner ≠ []) :
    unbracket? ('[' :: (inner ++ [']'])) = some inner := by
  obtain ⟨c, rest, hrest⟩ := List.exists_cons_of_ne_nil (List.reverse_ne_nil_iff.mpr hne)
  have hreverse : (inner ++ [']']).reverse = ']' :: c :: rest := by
    rw [List.reverse_append, hrest]
    rfl
  rw [unbracket?, hreverse]
  change some (c :: rest).reverse = some inner
  rw [← hrest, List.reverse_reverse]

theorem eq_brackets_of_unbracket? {cs inner : List Char} (h : unbracket? cs = some inner) :
    inner ≠ [] ∧ cs = '[' :: (inner ++ [']']) := by
  rw [unbracket?.eq_def] at h
  split at h
  · rename_i rest
    split at h
    · rename_i c last hreverse
      obtain rfl := Option.some.inj h
      refine ⟨by simp, congrArg _ ?_⟩
      rw [← List.reverse_reverse rest, hreverse, List.reverse_cons]
    · cases h
  · cases h

/-- Each level of brackets takes one unit of fuel, and has two characters to pay for it. -/
theorem Spells.ofChars {cs : List Char} {t : Typ} (h : Spells cs t) :
    ∀ fuel, cs.length < fuel → Typ.ofChars fuel cs = .ok t := by
  induction h with
  | @word before after w t hbefore hafter hw =>
    intro fuel hfuel
    obtain ⟨fuel, rfl⟩ : ∃ k, fuel = k + 1 := ⟨fuel - 1, by omega⟩
    have htrim := Text.trimChars_append hbefore (trimmed_of_mem_words _ hw) hafter
    dsimp only at htrim
    rw [Typ.ofChars, htrim, unbracket?_of_mem_words _ hw, String.ofList_toList, ofWord?_of_mem_words _ hw]
  | @slice before inner after t hbefore hafter hne _ ih =>
    intro fuel hfuel
    obtain ⟨fuel, rfl⟩ : ∃ k, fuel = k + 1 := ⟨fuel - 1, by omega⟩
    have hinner : inner.length < fuel := by
      simp only [List.length_append, List.length_cons] at hfuel
      omega
    have htrim := Text.trimChars_append hbefore (trimmed_brackets inner) hafter
    rw [Typ.ofChars, htrim, unbracket?_brackets hne]
    dsimp only
    rw [ih fuel hinner]
    rfl

theorem spells_of_ofChars {fuel : ℕ} {cs : List Char} {t : Typ} (h : ofChars fuel cs = .ok t) :
    Spells cs t := by
  induction fuel generalizing cs t with
  | zero => cases h
  | succ fuel ih =>
    obtain ⟨before, after, hbefore, hafter, hcs⟩ := Text.exists_trimChars cs
    rw [hcs]
    rw [ofChars] at h
    split at h
    · rename_i inner hinner
      obtain ⟨hne, hbrackets⟩ := eq_brackets_of_unbracket? hinner
      obtain ⟨elem, helem, rfl⟩ := map_eq_ok h
      rw [hbrackets]
      exact .slice hbefore hafter hne (ih helem)
    · split at h
      · rename_i hword
        obtain rfl := Except.ok.inj h
        have hspells := Spells.word hbefore hafter (mem_words_of_ofWord? hword)
        rwa [String.toList_ofList] at hspells
      · cases h

/-- Reading accepts what writes a type, and nothing else. -/
theorem ofDecl_eq_ok_iff {d : String} {t : Typ} : ofDecl d = .ok t ↔ Spells d.toList t :=
  ⟨spells_of_ofChars, fun h => h.ofChars _ (Nat.lt_succ_self _)⟩

theorem Spells.of_word {w : String} {t : Typ} (hw : (w, t) ∈ words) : Spells w.toList t := by
  have hspells := Spells.word Text.blank_nil Text.blank_nil hw
  rwa [List.nil_append, List.append_nil] at hspells

theorem spells_name (t : Typ) : t.name.toList ≠ [] ∧ Spells t.name.toList t := by
  induction t with
  | slice elem ih =>
    have hname : (slice elem).name.toList = '[' :: (elem.name.toList ++ [']']) := by
      rw [name, String.toList_append, String.toList_append]
      rfl
    have hspells := Spells.slice Text.blank_nil Text.blank_nil ih.1 ih.2
    rw [List.nil_append, List.append_nil] at hspells
    rw [hname]
    exact ⟨List.cons_ne_nil _ _, hspells⟩
  | string | int | float | bool | object | any => exact ⟨by decide, .of_word (by decide)⟩

theorem ofDecl_name (t : Typ) : ofDecl t.name = .ok t := ofDecl_eq_ok_iff.mpr (spells_name t).2

end Typ

namespace Schema

/-- The fields of a schema, none of whose types was left out. -/
def given (s : Schema) : Keyed (Option Typ) := s.map fun f => (f.1, some f.2)

theorem exists_given {fs : Keyed (Option Typ)} (h : ∀ f ∈ fs, f.2 ≠ none) :
    ∃ s : Schema, fs = s.given := by
  induction fs with
  | nil => exact ⟨[], rfl⟩
  | cons f fs ih =>
    obtain ⟨k, t⟩ := f
    obtain ⟨t, rfl⟩ := Option.ne_none_iff_exists'.mp (h _ List.mem_cons_self)
    obtain ⟨s, rfl⟩ := ih fun g hg => h g (List.mem_cons_of_mem _ hg)
    exact ⟨(k, t) :: s, rfl⟩

theorem find?_given (s : Schema) : s.given.find? (fun f => f.2.isNone) = none := by
  apply List.find?_eq_none.mpr
  intro f hf
  obtain ⟨g, _, rfl⟩ := List.mem_map.mp hf
  exact Bool.false_ne_true

theorem keys_given (s : Schema) : Keyed.keys s.given = Keyed.keys s := by
  rw [Keyed.keys, given, List.map_map]
  rfl

/-- The names of the types, by field. -/
def decls (s : Schema) : Keyed String := s.map fun f => (f.1, f.2.name)

theorem keys_decls (s : Schema) : Keyed.keys s.decls = Keyed.keys s := by
  rw [Keyed.keys, decls, List.map_map]
  rfl

theorem toJson_given (s : Schema) :
    toJson (some s.given) = .ok (.object (s.decls.map fun d => (d.1, .text d.2))) := by
  rw [toJson, find?_given, given, decls, List.map_map, List.map_map]
  rfl

theorem toJson_eq_ok_iff {fs : Keyed (Option Typ)} :
    (∃ j, toJson (some fs) = .ok j) ↔ ∀ f ∈ fs, f.2 ≠ none := by
  constructor
  · rintro ⟨j, hj⟩ f hf hnone
    rw [toJson] at hj
    split at hj
    · cases hj
    · rename_i hfind
      exact List.find?_eq_none.mp hfind f hf (by rw [hnone]; rfl)
  · intro h
    obtain ⟨s, rfl⟩ := exists_given h
    exact ⟨_, toJson_given s⟩

theorem declsOfJson_texts (ds : List (String × String)) :
    declsOfJson (ds.map fun d => (d.1, .text d.2)) = some ds := by
  induction ds with
  | nil => rfl
  | cons d ds ih => rw [List.map_cons, declsOfJson, ih, Option.map_some]

theorem ofDecls_decls (s : Schema) : ofDecls s.decls = .ok s := by
  induction s with
  | nil => rfl
  | cons f s ih =>
    obtain ⟨k, t⟩ := f
    change ofDecls ((k, t.name) :: decls s) = _
    rw [ofDecls, Typ.ofDecl_name]
    dsimp only
    rw [ih]
    rfl

theorem ofJson_given {s : Schema} (hs : Keyed.Sorted s) :
    ofJson (.object (s.decls.map fun d => (d.1, .text d.2))) = .ok (some s) := by
  have hdecls : Keyed.Sorted s.decls := by rwa [Keyed.Sorted, keys_decls]
  rw [ofJson, declsOfJson_texts]
  dsimp only
  rw [Keyed.ofList_of_sorted hdecls, ofDecls_decls]
  rfl

/-- The document of a schema is read from its text, and the schema from the document. -/
theorem ofJson_toJson {fs : Option (Keyed (Option Typ))} (hfs : ∀ m ∈ fs, Keyed.Sorted m) {j : Json}
    (h : toJson fs = .ok j) :
    Json.parse? j.render = some j ∧ ∃ s, ofJson j = .ok s ∧ fs = s.map given := by
  cases fs with
  | none =>
    obtain rfl := Except.ok.inj h
    exact ⟨Json.parse?_render .null, none, rfl, rfl⟩
  | some m =>
    obtain ⟨s, rfl⟩ := exists_given (toJson_eq_ok_iff.mp ⟨j, h⟩)
    have hs : Keyed.Sorted s := by
      have hsorted := hfs _ rfl
      rwa [Keyed.Sorted, keys_given] at hsorted
    rw [toJson_given] at h
    obtain rfl := Except.ok.inj h
    refine ⟨Json.parse?_render (.object fun e he => ?_), some s, ofJson_given hs, rfl⟩
    obtain ⟨d, _, rfl⟩ := List.mem_map.mp he
    exact .text d.2

/-- A type is read from its name, whatever the spelling it was first read from; the spellings are words
and brackets with blanks around them. A schema has a document unless a type was left out, and is read
from it with its keys and types, where no schema at all stays apart from an empty one. -/
theorem written_roundtrip :
    (∀ t : Typ, Typ.ofDecl t.name = .ok t) ∧
    (∀ d t, Typ.ofDecl d = .ok t ↔ Typ.Spells d.toList t) ∧
    (∀ d t, Typ.ofDecl d = .ok t → Typ.ofDecl t.name = .ok t) ∧
    (∀ fs : Option (Keyed (Option Typ)), (∃ j, toJson fs = .ok j) ↔ ∀ m ∈ fs, ∀ f ∈ m, f.2 ≠ none) ∧
    ∀ fs : Option (Keyed (Option Typ)), (∀ m ∈ fs, Keyed.Sorted m) → ∀ j, toJson fs = .ok j →
      Json.parse? j.render = some j ∧ ∃ s, ofJson j = .ok s ∧ fs = s.map given := by
  refine ⟨Typ.ofDecl_name, fun d t => Typ.ofDecl_eq_ok_iff, fun d t _ => Typ.ofDecl_name t, fun fs => ?_,
    fun fs hfs j hj => ofJson_toJson hfs hj⟩
  cases fs with
  | none => exact ⟨fun _ _ hm => absurd hm (Option.not_mem_none _), fun _ => ⟨.null, rfl⟩⟩
  | some m => simpa using toJson_eq_ok_iff

/-- A nested declaration with blanks, and a schema with an optional key. -/
theorem written_roundtrip_nested :
    let nested : Typ := .slice (.slice .int)
    let fs : Option (Keyed (Option Typ)) := some [("name?", some .string), ("tags", some nested)]
    let j : Json := .object [("name?", .text "string"), ("tags", .text "[[int]]")]
    nested.name = "[[int]]" ∧ Typ.ofDecl " [ [ int\t]\n]" = .ok nested ∧ Typ.ofDecl "[[int]]" = .ok nested ∧
      Typ.Spells " [ [ int\t]\n]".toList nested ∧
      toJson fs = .ok j ∧ j.render = "\x7b\"name?\":\"string\",\"tags\":\"[[int]]\"\x7d" ∧
      Json.parse? j.render = some j ∧ ∃ s, ofJson j = .ok s ∧ fs = s.map given := by
  intro nested fs j
  obtain ⟨-, hspells, hback, -, hread⟩ := written_roundtrip
  have hdecl : Typ.ofDecl " [ [ int\t]\n]" = .ok nested := rfl
  have hsorted : ∀ m ∈ fs, Keyed.Sorted m := by
    intro m hm
    obtain rfl := Option.some.inj hm
    exact Keyed.sorted_cons.mpr ⟨by decide, List.pairwise_singleton _ _⟩
  have hdocument : toJson fs = .ok j := rfl
  obtain ⟨hparse, hschema⟩ := hread fs hsorted j hdocument
  exact ⟨rfl, hdecl, hback _ nested hdecl, (hspells _ nested).mp hdecl, hdocument, rfl, hparse, hschema⟩

/-- Brackets around nothing but a blank are a list of anything. -/
example : Typ.ofDecl "\t[[ ] ]" = .ok (.slice (.slice .any)) := by rfl

end Schema

end Courier
