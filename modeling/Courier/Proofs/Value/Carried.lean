import Courier.Proofs.Fallible
import Courier.Proofs.Json.RoundTrip
import Courier.Proofs.Keyed

/-! What a value is after its way through a JSON document: numbers are doubles, bytes and instants are
texts, tables are records. Every value that has a document comes back as that, and everything that can be
read from a document has one. -/
namespace Courier.Value

/-- Values as they are made: integers of at most 64 bits, numbers in their formats, and records with their
keys in order. -/
inductive Valid : Value → Prop
  | null : Valid .null
  | bool (b : Bool) : Valid (.bool b)
  | text (s : String) : Valid (.text s)
  | int (k : IntKind) {n : ℤ} (h : n.natAbs < 2 ^ 64) : Valid (.int k n)
  | float {x : Binary} (h : x.InFormat .double) : Valid (.float x)
  | single {x : Binary} (h : x.InFormat .single) : Valid (.single x)
  | bytes (bs : List UInt8) : Valid (.bytes bs)
  | texts (ss : List String) : Valid (.texts ss)
  | list {vs : List Value} (h : ∀ v ∈ vs, Valid v) : Valid (.list vs)
  | record {fs : List (String × Value)} (hs : Keyed.Sorted fs) (h : ∀ f ∈ fs, Valid f.2) :
      Valid (.record fs)
  | table {es : List (Value × Value)} (h : ∀ e ∈ es, Valid e.2) : Valid (.table es)
  | time (t : Instant) : Valid (.time t)

/-- The member name of a table key that has one. -/
def keyName : Value → String
  | .text s => s
  | .int _ n => toString n
  | _ => ""

mutual
/-- A value as it comes back from its document. -/
def carried : Value → Value
  | .int _ n => .float (Binary.ofInt .double n)
  | .single x => .float (doubleOfText (x.text .single jsonLayout))
  | .bytes bs => .text (Base64.encode bs)
  | .texts ss => .list (ss.map Value.text)
  | .list vs => .list (carriedItems vs)
  | .record fs => .record (carriedFields fs)
  | .table es => .record (Keyed.ofList (carriedEntries es))
  | .time t => .text t.text
  | v => v
def carriedItems : List Value → List Value
  | [] => []
  | v :: vs => v.carried :: carriedItems vs
def carriedFields : List (String × Value) → List (String × Value)
  | [] => []
  | (k, v) :: fs => (k, v.carried) :: carriedFields fs
def carriedEntries : List (Value × Value) → List (String × Value)
  | [] => []
  | (k, v) :: es => (k.keyName, v.carried) :: carriedEntries es
end

/-- A document that can be read, and what it is read as. -/
structure ReadsAs (j : Json) (v : Value) : Prop where
  readable : j.Readable
  read : ofJson? j = some v

theorem readsAs_list {js : List Json} {vs : List Value} (h : List.Forall₂ ReadsAs js vs) :
    ReadsAs (.list js) (.list vs) := by
  have hitems : (∀ j ∈ js, j.Readable) ∧ ofItems? js = some vs := by
    induction h with
    | nil => exact ⟨nofun, by rw [ofItems?]⟩
    | cons hj _ ih =>
      refine ⟨List.forall_mem_cons.mpr ⟨hj.readable, ih.1⟩, ?_⟩
      rw [ofItems?, hj.read, ih.2]
      rfl
  exact ⟨.list hitems.1, by rw [ofJson?, hitems.2]; rfl⟩

theorem ofMembers?_of_related {ms : List (String × Json)} {fs : List (String × Value)}
    (h : Keyed.Related ReadsAs ms fs) : (∀ m ∈ ms, m.2.Readable) ∧ ofMembers? ms = some fs := by
  induction h with
  | nil => exact ⟨nofun, by rw [ofMembers?]⟩
  | @cons m f _ _ hmf _ ih =>
    obtain ⟨k, j⟩ := m
    obtain ⟨k', v⟩ := f
    obtain ⟨rfl, hj⟩ := hmf
    refine ⟨List.forall_mem_cons.mpr ⟨hj.readable, ih.1⟩, ?_⟩
    rw [ofMembers?, hj.read, ih.2]
    rfl

theorem readsAs_record {ms : List (String × Json)} {fs : List (String × Value)}
    (h : Keyed.Related ReadsAs ms fs) (hs : Keyed.Sorted fs) : ReadsAs (.object ms) (.record fs) := by
  obtain ⟨hreadable, hread⟩ := ofMembers?_of_related h
  refine ⟨.object hreadable, ?_⟩
  rw [ofJson?, hread]
  exact congrArg (some ∘ Value.record) (Keyed.ofList_of_sorted hs)

/-- A value whose document, if it has one, reads as the value is carried. -/
def Carries (v : Value) : Prop := ∀ j, v.toJson = .ok j → ReadsAs j v.carried

theorem readsAs_jsonItems {vs : List Value} (hv : ∀ v ∈ vs, Carries v) :
    ∀ {js : List Json}, jsonItems vs = .ok js → List.Forall₂ ReadsAs js (carriedItems vs) := by
  induction vs with
  | nil =>
    intro js h
    rw [jsonItems] at h
    cases h
    rw [carriedItems]
    exact .nil
  | cons v vs ih =>
    intro js h
    rw [jsonItems] at h
    obtain ⟨j, hj, h⟩ := bind_eq_ok h
    obtain ⟨js, hjs, h⟩ := bind_eq_ok h
    cases h
    obtain ⟨hhead, htail⟩ := List.forall_mem_cons.mp hv
    rw [carriedItems]
    exact .cons (hhead j hj) (ih htail hjs)

theorem readsAs_jsonMembers {fs : List (String × Value)} (hv : ∀ f ∈ fs, Carries f.2) :
    ∀ {ms : List (String × Json)}, jsonMembers fs = .ok ms →
      Keyed.Related ReadsAs ms (carriedFields fs) := by
  induction fs with
  | nil =>
    intro ms h
    rw [jsonMembers] at h
    cases h
    rw [carriedFields]
    exact .nil
  | cons f fs ih =>
    intro ms h
    obtain ⟨k, v⟩ := f
    rw [jsonMembers] at h
    obtain ⟨j, hj, h⟩ := bind_eq_ok h
    obtain ⟨js, hjs, h⟩ := bind_eq_ok h
    cases h
    obtain ⟨hhead, htail⟩ := List.forall_mem_cons.mp hv
    rw [carriedFields]
    exact .cons ⟨rfl, hhead j hj⟩ (ih htail hjs)

theorem keyText_eq_ok {v : Value} {k : String} (h : v.keyText = .ok k) : k = v.keyName := by
  cases v with
  | text s => exact (Except.ok.inj h).symm
  | int kind n => exact (Except.ok.inj h).symm
  | _ => cases h

theorem readsAs_jsonEntries {es : List (Value × Value)} (hv : ∀ e ∈ es, Carries e.2) :
    ∀ {ms : List (String × Json)}, jsonEntries es = .ok ms →
      Keyed.Related ReadsAs ms (carriedEntries es) := by
  induction es with
  | nil =>
    intro ms h
    rw [jsonEntries] at h
    cases h
    rw [carriedEntries]
    exact .nil
  | cons e es ih =>
    intro ms h
    obtain ⟨key, v⟩ := e
    rw [jsonEntries] at h
    obtain ⟨k, hk, h⟩ := bind_eq_ok h
    obtain ⟨j, hj, h⟩ := bind_eq_ok h
    obtain ⟨js, hjs, h⟩ := bind_eq_ok h
    cases h
    obtain ⟨hhead, htail⟩ := List.forall_mem_cons.mp hv
    rw [carriedEntries]
    exact .cons ⟨keyText_eq_ok hk, hhead j hj⟩ (ih htail hjs)

theorem keys_carriedFields (fs : List (String × Value)) :
    Keyed.keys (carriedFields fs) = Keyed.keys fs := by
  induction fs with
  | nil => rw [carriedFields]
  | cons f fs ih =>
    obtain ⟨k, v⟩ := f
    rw [carriedFields, Keyed.keys, Keyed.keys, List.map_cons, List.map_cons]
    exact congrArg _ ih

theorem sorted_carriedFields {fs : List (String × Value)} (h : Keyed.Sorted fs) :
    Keyed.Sorted (carriedFields fs) := by
  rwa [Keyed.Sorted, keys_carriedFields]

theorem readsAs_ofTexts (ss : List String) :
    ReadsAs (Json.ofTexts ss) (.list (ss.map Value.text)) := by
  apply readsAs_list
  induction ss with
  | nil => exact .nil
  | cons s ss ih => exact .cons ⟨.text s, by rw [ofJson?]⟩ ih

theorem readsAs_number (n : Numeral) {x : Binary} (hx : doubleOfText (String.ofList n.chars) = x)
    (hfinite : x.isFinite = true) : ReadsAs (.number (String.ofList n.chars)) (.float x) := by
  refine ⟨.number n, ?_⟩
  rw [ofJson?, hx]
  exact if_pos hfinite

theorem carries_int (k : IntKind) {n : ℤ} (h : n.natAbs < 2 ^ 64) : Carries (.int k n) := by
  intro j hj
  rw [toJson] at hj
  cases hj
  rw [carried, Json.ofInt, Numeral.toString_eq]
  apply readsAs_number _ _ (Binary.isFinite_ofInt h)
  rw [← Numeral.toString_eq, Binary.doubleOfText_toString h]

/-- Only finite numbers have a document, which is their numeral. -/
theorem numberJson_eq_ok {f : Binary.Format} {x : Binary} {j : Json} (h : numberJson f x = .ok j) :
    ∃ (s : Bool) (m : ℕ) (e : ℤ) (n : Numeral), x = .finite s m e ∧
      x.text f jsonLayout = String.ofList n.chars ∧ j = .number (String.ofList n.chars) := by
  cases x with
  | nan => cases h
  | infinite s => cases h
  | finite s m e =>
    obtain ⟨n, -, htext, -⟩ := Binary.exists_numeral_text f jsonLayout s m e
    exact ⟨s, m, e, n, rfl, htext, by rw [← htext]; exact (Except.ok.inj h).symm⟩

theorem carries_float {x : Binary} (h : x.InFormat .double) : Carries (.float x) := by
  intro j hj
  rw [toJson] at hj
  obtain ⟨s, m, e, n, rfl, htext, rfl⟩ := numberJson_eq_ok hj
  apply readsAs_number _ _ rfl
  rw [← htext, Binary.doubleOfText_text jsonLayout h]

theorem carries_single {x : Binary} (h : x.InFormat .single) : Carries (.single x) := by
  intro j hj
  rw [toJson] at hj
  obtain ⟨s, m, e, n, rfl, htext, rfl⟩ := numberJson_eq_ok hj
  rw [carried, htext]
  apply readsAs_number _ rfl
  rw [← htext]
  exact Binary.isFinite_doubleOfText_single jsonLayout h

theorem timeJson_eq_ok {t : Instant} {j : Json} (h : timeJson t = .ok j) :
    t.hasFourDigitYear = true ∧ t.zone.isWithinDay = true ∧ j = .text t.text := by
  rw [timeJson] at h
  split_ifs at h with hyear hzone
  exact ⟨by simpa using hyear, by simpa using hzone, (Except.ok.inj h).symm⟩

theorem timeJson_of {t : Instant} (hyear : t.hasFourDigitYear = true)
    (hzone : t.zone.isWithinDay = true) : timeJson t = .ok (.text t.text) := by
  rw [timeJson, hyear, hzone]
  rfl

theorem carries_of_toJson {v : Value} {j : Json} (hj : v.toJson = .ok j) (h : ReadsAs j v.carried) :
    Carries v := by
  intro j' hj'
  rw [hj] at hj'
  cases hj'
  exact h

theorem readsAs_text (s : String) : ReadsAs (.text s) (.text s) := ⟨.text s, by rw [ofJson?]⟩

/-- Every value as it is made comes back from its document as it is carried. -/
theorem Valid.carries {v : Value} (h : Valid v) : Carries v := by
  induction h with
  | null => exact carries_of_toJson (by rw [toJson]) ⟨.null, by rw [ofJson?]; rfl⟩
  | bool b => exact carries_of_toJson (by rw [toJson]) ⟨.bool b, by rw [ofJson?]; rfl⟩
  | text s => exact carries_of_toJson (by rw [toJson]) (readsAs_text s)
  | int k h => exact carries_int k h
  | float h => exact carries_float h
  | single h => exact carries_single h
  | bytes bs =>
    refine carries_of_toJson (by rw [toJson]) ?_
    rw [carried]
    exact readsAs_text _
  | texts ss =>
    refine carries_of_toJson (by rw [toJson]) ?_
    rw [carried]
    exact readsAs_ofTexts ss
  | list h ih =>
    intro j hj
    rw [toJson] at hj
    obtain ⟨js, hjs, rfl⟩ := map_eq_ok hj
    rw [carried]
    exact readsAs_list (readsAs_jsonItems ih hjs)
  | @record fs hs h ih =>
    intro j hj
    rw [toJson] at hj
    obtain ⟨ms, hms, rfl⟩ := map_eq_ok hj
    have hsorted : Keyed.Sorted (carriedFields fs) := by
      rw [Keyed.Sorted, keys_carriedFields]
      exact hs
    rw [carried]
    exact readsAs_record (readsAs_jsonMembers ih hms) hsorted
  | table h ih =>
    intro j hj
    rw [toJson] at hj
    obtain ⟨ms, hms, rfl⟩ := map_eq_ok hj
    rw [carried]
    exact readsAs_record (readsAs_jsonEntries ih hms).ofList (Keyed.sorted_ofList _)
  | time t =>
    intro j hj
    rw [toJson] at hj
    obtain ⟨-, -, rfl⟩ := timeJson_eq_ok hj
    rw [carried]
    exact readsAs_text _

/-- A value that JSON has a form for. -/
def HasDocument (v : Value) : Prop := ∃ j, v.toJson = .ok j

theorem jsonMembers_eq_ok_iff {fs : List (String × Value)} :
    (∃ ms, jsonMembers fs = .ok ms) ↔ ∀ f ∈ fs, f.2.HasDocument := by
  induction fs with
  | nil => exact ⟨fun _ => List.forall_mem_nil _, fun _ => ⟨[], by rw [jsonMembers]⟩⟩
  | cons f fs ih =>
    obtain ⟨k, v⟩ := f
    rw [List.forall_mem_cons, ← ih]
    constructor
    · rintro ⟨ms, hms⟩
      rw [jsonMembers] at hms
      obtain ⟨j, hj, hms⟩ := bind_eq_ok hms
      obtain ⟨js, hjs, -⟩ := bind_eq_ok hms
      exact ⟨⟨j, hj⟩, js, hjs⟩
    · rintro ⟨⟨j, hj⟩, js, hjs⟩
      refine ⟨(k, j) :: js, ?_⟩
      rw [jsonMembers, hj, hjs]
      rfl

theorem hasDocument_record_iff {fs : List (String × Value)} :
    (record fs).HasDocument ↔ ∀ f ∈ fs, f.2.HasDocument := by
  rw [← jsonMembers_eq_ok_iff, HasDocument]
  constructor
  · rintro ⟨j, hj⟩
    rw [toJson] at hj
    obtain ⟨ms, hms, -⟩ := map_eq_ok hj
    exact ⟨ms, hms⟩
  · rintro ⟨ms, hms⟩
    exact ⟨.object ms, by rw [toJson, hms]; rfl⟩

theorem hasDocument_list {vs : List Value} (h : ∀ v ∈ vs, v.HasDocument) : (list vs).HasDocument := by
  have hitems : ∃ js, jsonItems vs = .ok js := by
    induction vs with
    | nil => exact ⟨[], by rw [jsonItems]⟩
    | cons v vs ih =>
      obtain ⟨⟨j, hj⟩, hrest⟩ := List.forall_mem_cons.mp h
      obtain ⟨js, hjs⟩ := ih hrest
      refine ⟨j :: js, ?_⟩
      rw [jsonItems, hj, hjs]
      rfl
  obtain ⟨js, hjs⟩ := hitems
  exact ⟨.list js, by rw [toJson, hjs]; rfl⟩

/-- What can be read from a document can be written to one. -/
structure Read (v : Value) : Prop where
  valid : v.Valid
  hasDocument : v.HasDocument

theorem read_record {fs : List (String × Value)} (hs : Keyed.Sorted fs) (h : ∀ f ∈ fs, f.2.Read) :
    (record fs).Read :=
  ⟨.record hs fun f hf => (h f hf).valid, hasDocument_record_iff.mpr fun f hf => (h f hf).hasDocument⟩

mutual

theorem read_ofJson? (j : Json) {v : Value} (h : ofJson? j = some v) : v.Read := by
  cases j with
  | null =>
    rw [ofJson?] at h
    cases h
    exact ⟨.null, .null, by rw [toJson]⟩
  | bool b =>
    rw [ofJson?] at h
    cases h
    exact ⟨.bool b, .bool b, by rw [toJson]⟩
  | number t =>
    rw [ofJson?] at h
    split_ifs at h with hfinite
    cases h
    refine ⟨.float (Binary.inFormat_doubleOfText t), .number ((doubleOfText t).text .double jsonLayout), ?_⟩
    rw [toJson, numberJson, if_pos hfinite]
  | text s =>
    rw [ofJson?] at h
    cases h
    exact ⟨.text s, .text s, by rw [toJson]⟩
  | list js =>
    rw [ofJson?] at h
    obtain ⟨vs, hvs, rfl⟩ := Option.map_eq_some_iff.mp h
    have hread := read_ofItems? js hvs
    exact ⟨.list fun v hv => (hread v hv).valid, hasDocument_list fun v hv => (hread v hv).hasDocument⟩
  | object ms =>
    rw [ofJson?] at h
    obtain ⟨fs, hfs, rfl⟩ := Option.map_eq_some_iff.mp h
    exact read_record (Keyed.sorted_ofList fs) fun f hf =>
      read_ofMembers? ms hfs f (Keyed.mem_of_mem_ofList hf)

theorem read_ofItems? (js : List Json) {vs : List Value} (h : ofItems? js = some vs) :
    ∀ v ∈ vs, v.Read := by
  cases js with
  | nil =>
    rw [ofItems?] at h
    cases h
    exact List.forall_mem_nil _
  | cons j js =>
    rw [ofItems?] at h
    obtain ⟨v, hv, h⟩ := Option.bind_eq_some_iff.mp h
    obtain ⟨vs, hvs, h⟩ := Option.bind_eq_some_iff.mp h
    cases h
    exact List.forall_mem_cons.mpr ⟨read_ofJson? j hv, read_ofItems? js hvs⟩

theorem read_ofMembers? (ms : List (String × Json)) {fs : List (String × Value)}
    (h : ofMembers? ms = some fs) : ∀ f ∈ fs, f.2.Read := by
  cases ms with
  | nil =>
    rw [ofMembers?] at h
    cases h
    exact List.forall_mem_nil _
  | cons m ms =>
    obtain ⟨k, j⟩ := m
    rw [ofMembers?] at h
    obtain ⟨v, hv, h⟩ := Option.bind_eq_some_iff.mp h
    obtain ⟨vs, hvs, h⟩ := Option.bind_eq_some_iff.mp h
    cases h
    exact List.forall_mem_cons.mpr ⟨read_ofJson? j hv, read_ofMembers? ms hvs⟩

end

end Courier.Value
