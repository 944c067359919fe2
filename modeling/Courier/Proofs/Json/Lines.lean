import Courier.Proofs.Result.Carried

/-! The documents of results stand on one line: whatever breaks a line inside a text is escaped, and
nothing else in a document does. -/
namespace Courier

namespace Text

/-- A character that ends a line. -/
def isBreak (c : Char) : Bool := c = '\n' || c = '\r'

/-- A text without a character that ends a line. -/
def OneLine (s : String) : Prop := ∀ c ∈ s.toList, isBreak c = false

instance (s : String) : Decidable (OneLine s) :=
  List.decidableBAll (fun c => isBreak c = false) s.toList

theorem OneLine.append {s t : String} (hs : OneLine s) (ht : OneLine t) : OneLine (s ++ t) := by
  intro c hc
  rw [String.toList_append] at hc
  rcases List.mem_append.mp hc with hc | hc
  · exact hs c hc
  · exact ht c hc

theorem oneLine_intercalate {sep : String} (hsep : OneLine sep) {parts : List String}
    (h : ∀ p ∈ parts, OneLine p) : OneLine (String.intercalate sep parts) := by
  induction parts with
  | nil => exact fun c hc => absurd hc List.not_mem_nil
  | cons p parts ih =>
    obtain ⟨hp, hparts⟩ := List.forall_mem_cons.mp h
    cases parts with
    | nil =>
      rw [String.intercalate_singleton]
      exact hp
    | cons q parts =>
      rw [String.intercalate_cons_cons]
      exact (hp.append hsep).append (ih hparts)

theorem isBreak_of_isDigit {c : Char} (h : c.isDigit = true) : isBreak c = false := by
  have hline : c ≠ '\n' := Numeral.isDigit_ne h rfl
  have hreturn : c ≠ '\r' := Numeral.isDigit_ne h rfl
  simp [isBreak, hline, hreturn]

theorem isBreak_hexDigit : ∀ d < 16, isBreak (hexDigit d) = false := by decide

theorem isBreak_hexDigits (width n : ℕ) : ∀ c ∈ hexDigits width n, isBreak c = false := by
  induction width generalizing n with
  | zero => nofun
  | succ width ih =>
    intro c hc
    rw [hexDigits] at hc
    rcases List.mem_append.mp hc with hc | hc
    · exact ih (n / 16) c hc
    · rw [List.mem_singleton.mp hc]
      exact isBreak_hexDigit _ (Nat.mod_lt n (by decide))

end Text

theorem Numeral.oneLine (n : Numeral) : Text.OneLine (String.ofList n.chars) := by
  intro c hc
  rw [String.toList_ofList, chars, ← List.append_assoc n.whole] at hc
  rcases List.mem_append.mp hc with hc | hc
  · unfold minus at hc
    split_ifs at hc
    · rw [List.mem_singleton.mp hc]
      rfl
    · cases hc
  rcases List.mem_append.mp hc with hc | hc
  · rcases n.isDigit_or_point hc with hc | rfl
    · exact Text.isBreak_of_isDigit hc
    · rfl
  rcases n.exponentChars_cases with hnone | ⟨s, ds, -, hdigits, hsome⟩
  · rw [hnone] at hc
    cases hc
  · rw [hsome] at hc
    rcases List.mem_cons.mp hc with rfl | hc
    · rfl
    rcases List.mem_cons.mp hc with rfl | hc
    · cases s <;> rfl
    · exact Text.isBreak_of_isDigit (hdigits c hc)

namespace Json

theorem isBreak_pair {c : Char} (hc : Text.isBreak c = false) :
    ∀ d ∈ ['\\', c], Text.isBreak d = false := by
  intro d hd
  rcases List.mem_cons.mp hd with rfl | hd
  · rfl
  · rw [List.mem_singleton.mp hd]
    exact hc

theorem isBreak_escapeChar (c : Char) : ∀ d ∈ escapeChar c, Text.isBreak d = false := by
  intro d hd
  simp only [escapeChar] at hd
  split_ifs at hd with hquote hslash hb hf hn hr ht hcode
  -- Two characters, the second of which is a letter or a sign.
  iterate 7 exact isBreak_pair rfl d hd
  · rcases List.mem_cons.mp hd with rfl | hd
    · rfl
    rcases List.mem_cons.mp hd with rfl | hd
    · rfl
    · exact Text.isBreak_hexDigits 4 c.toNat d hd
  · -- A character that stands for itself is none of those that were escaped.
    rw [List.mem_singleton.mp hd]
    have hline : c ≠ '\n' := fun h => hn (h ▸ rfl)
    have hreturn : c ≠ '\r' := fun h => hr (h ▸ rfl)
    simp [Text.isBreak, hline, hreturn]

theorem oneLine_quote (s : String) : Text.OneLine (quote s) := by
  intro c hc
  rw [toList_quote] at hc
  rcases List.mem_cons.mp hc with rfl | hc
  · rfl
  rcases List.mem_append.mp hc with hc | hc
  · obtain ⟨d, -, hd⟩ := List.mem_flatMap.mp hc
    exact isBreak_escapeChar d c hd
  · rw [List.mem_singleton.mp hc]
    rfl

/-- A document whose numbers are written as numbers are stands on one line. -/
theorem Readable.oneLine {j : Json} (h : j.Readable) : Text.OneLine j.render := by
  induction h with
  | null => rw [render]; decide
  | bool b => cases b <;> rw [render] <;> decide
  | number n => rw [render]; exact n.oneLine
  | text s => rw [render]; exact oneLine_quote s
  | @list items _ ih =>
    have hitems : ∀ p ∈ renderItems items, Text.OneLine p := by
      clear * - ih
      induction items with
      | nil =>
        intro p hp
        cases hp
      | cons j items ihitems =>
        obtain ⟨hj, hitems⟩ := List.forall_mem_cons.mp ih
        exact List.forall_mem_cons.mpr ⟨hj, ihitems hitems⟩
    rw [render]
    exact (Text.OneLine.append (by decide) (Text.oneLine_intercalate (by decide) hitems)).append
      (by decide)
  | @object members _ ih =>
    have hmembers : ∀ p ∈ renderMembers members, Text.OneLine p := by
      clear * - ih
      induction members with
      | nil =>
        intro p hp
        cases hp
      | cons m members ihmembers =>
        obtain ⟨hm, hmembers⟩ := List.forall_mem_cons.mp ih
        refine List.forall_mem_cons.mpr ⟨?_, ihmembers hmembers⟩
        exact ((oneLine_quote m.1).append (by decide)).append hm
    rw [render]
    exact (Text.OneLine.append (by decide) (Text.oneLine_intercalate (by decide) hmembers)).append
      (by decide)

end Json

namespace Value

mutual

/-- The numbers of every document of a value are written as numbers are. -/
theorem readable_of_toJson (v : Value) (j : Json) (h : v.toJson = .ok j) : j.Readable := by
  match v with
  | .null | .bool b | .text s | .bytes bs =>
    rw [toJson] at h
    cases h
    constructor
  | .int k n =>
    rw [toJson] at h
    cases h
    exact Json.readable_ofInt n
  | .float x | .single x =>
    rw [toJson] at h
    obtain ⟨s, m, e, n, -, -, rfl⟩ := numberJson_eq_ok h
    exact .number n
  | .texts ss =>
    rw [toJson] at h
    cases h
    exact (readsAs_ofTexts ss).readable
  | .time t =>
    rw [toJson] at h
    obtain ⟨-, -, rfl⟩ := timeJson_eq_ok h
    exact .text _
  | .list vs =>
    rw [toJson] at h
    obtain ⟨js, hjs, rfl⟩ := map_eq_ok h
    exact .list (readable_of_jsonItems vs js hjs)
  | .record fs =>
    rw [toJson] at h
    obtain ⟨ms, hms, rfl⟩ := map_eq_ok h
    exact .object (readable_of_jsonMembers fs ms hms)
  | .table es =>
    rw [toJson] at h
    obtain ⟨ms, hms, rfl⟩ := map_eq_ok h
    exact .object fun m hm => readable_of_jsonEntries es ms hms m (Keyed.mem_of_mem_ofList hm)

theorem readable_of_jsonItems (vs : List Value) (js : List Json) (h : jsonItems vs = .ok js) :
    ∀ j ∈ js, j.Readable := by
  match vs with
  | [] =>
    rw [jsonItems] at h
    cases h
    nofun
  | v :: vs =>
    rw [jsonItems] at h
    obtain ⟨j, hj, h⟩ := bind_eq_ok h
    obtain ⟨js', hjs, h⟩ := bind_eq_ok h
    cases h
    exact List.forall_mem_cons.mpr ⟨readable_of_toJson v j hj, readable_of_jsonItems vs js' hjs⟩

theorem readable_of_jsonMembers (fs : List (String × Value)) (ms : List (String × Json))
    (h : jsonMembers fs = .ok ms) : ∀ m ∈ ms, m.2.Readable := by
  match fs with
  | [] =>
    rw [jsonMembers] at h
    cases h
    nofun
  | (k, v) :: fs =>
    rw [jsonMembers] at h
    obtain ⟨j, hj, h⟩ := bind_eq_ok h
    obtain ⟨ms', hms, h⟩ := bind_eq_ok h
    cases h
    exact List.forall_mem_cons.mpr ⟨readable_of_toJson v j hj, readable_of_jsonMembers fs ms' hms⟩

theorem readable_of_jsonEntries (es : List (Value × Value)) (ms : List (String × Json))
    (h : jsonEntries es = .ok ms) : ∀ m ∈ ms, m.2.Readable := by
  match es with
  | [] =>
    rw [jsonEntries] at h
    cases h
    nofun
  | (k, v) :: es =>
    rw [jsonEntries] at h
    obtain ⟨name, -, h⟩ := bind_eq_ok h
    obtain ⟨j, hj, h⟩ := bind_eq_ok h
    obtain ⟨ms', hms, h⟩ := bind_eq_ok h
    cases h
    exact List.forall_mem_cons.mpr ⟨readable_of_toJson v j hj, readable_of_jsonEntries es ms' hms⟩

end

end Value

/-- The document of a result stands on one line. -/
theorem Result.oneLine_of_encode {r : Result} {t : String} (h : r.encode = .ok t) : Text.OneLine t := by
  obtain ⟨value, bindings, hvalue, hbindings, -, -, rfl⟩ := encode_eq_ok h
  exact (readable_members (Value.readable_of_toJson _ _ hvalue)
    (Value.readable_of_jsonMembers _ _ hbindings)).oneLine

end Courier
