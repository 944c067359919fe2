import Courier.Proofs.Time.Reading
import Courier.Proofs.Value.Carried
import Courier.Result.Json

/-! What a result is after it was written as a document and read again. -/
namespace Courier

namespace Json

/-- An integer of 64 bits. -/
def IsInt64 (i : ℤ) : Prop := -9223372036854775808 ≤ i ∧ i ≤ 9223372036854775807

theorem integerOf?_toString {i : ℤ} (h : IsInt64 i) : integerOf? (toString i) = some i := by
  have hguard : ((Nat.toDigits 10 i.natAbs).isEmpty ||
      (Nat.toDigits 10 i.natAbs).any (fun c => !isDigit c)) = false := by
    rw [Bool.or_eq_false_iff, List.any_eq_false]
    refine ⟨by simp [Nat.toDigits_ne_nil], fun c hc => ?_⟩
    have hdigit : isDigit c = true := Numeral.isDigit_toDigits _ c hc
    rw [hdigit]
    decide
  have hminus : readMinus (toString i).toList =
      (Numeral.minus (decide (i < 0)), Nat.toDigits 10 i.natAbs) := by
    have hread := (Numeral.ofInt i).readMinus_chars []
    rw [List.append_nil, Numeral.chars_ofInt] at hread
    exact hread.trans (congrArg (Prod.mk _) (List.append_nil _))
  have hvalue : (if (Numeral.minus (decide (i < 0))).isEmpty then (i.natAbs : ℤ) else -i.natAbs) = i := by
    by_cases hneg : i < 0
    · rw [decide_eq_true hneg]
      change -(i.natAbs : ℤ) = i
      omega
    · rw [decide_eq_false hneg]
      change (i.natAbs : ℤ) = i
      omega
  rw [integerOf?, hminus]
  simp only [hguard, Numeral.digitsValue_eq, Nat.ofDigitChars_ten_toDigits, hvalue]
  exact if_pos h

theorem readable_ofInt (i : ℤ) : (ofInt i).Readable := by
  rw [ofInt, Numeral.toString_eq]
  exact .number _

end Json

theorem Status.text_ofText (s : String) : (Status.ofText s).text = s := by
  unfold ofText
  split_ifs with hsuccess hfailure
  · exact hsuccess.symm
  · exact hfailure.symm
  · rfl

namespace Failure

/-- A failure as it comes back: its kind is the one that its word names. -/
def carried (f : Failure) : Failure := { f with kind := .ofText f.kind.text }

/-- A text that is left out when it is empty reads as itself in either case. -/
theorem foldlM_optional {g : Failure} {name text : String} (set : Failure → String → Failure)
    (hread : readMember g (name, .text text) = some (set g text)) (hempty : set g "" = g) :
    (if text = "" then [] else [(name, Json.text text)]).foldlM readMember g = some (set g text) := by
  split_ifs with htext
  · rw [htext, hempty]
    rfl
  · rw [List.foldlM_cons, hread]
    rfl

theorem ofJson?_toJson {f : Failure} (h : Json.IsInt64 f.nodeId) :
    ofJson? none f.toJson = some (some f.carried) := by
  have hstart : [("kind", Json.text f.kind.text), ("node_id", Json.ofInt f.nodeId)].foldlM readMember
      blank = some { blank with kind := .ofText f.kind.text, nodeId := f.nodeId } := by
    change (Json.integerOf? (toString f.nodeId)).map _ >>= _ = _
    rw [Json.integerOf?_toString h]
    rfl
  change Option.map some (List.foldlM readMember blank _) = _
  rw [List.foldlM_append, List.foldlM_append, List.foldlM_append, hstart, Option.bind_eq_bind,
    Option.bind_some,
    foldlM_optional (fun g s => { g with nodeKind := s }) rfl rfl, Option.bind_some,
    foldlM_optional (fun g s => { g with statement := s }) rfl rfl, Option.bind_some]
  rfl

theorem readable_toJson (f : Failure) : f.toJson.Readable := by
  refine .object ?_
  simp only [List.forall_mem_append, List.forall_mem_cons]
  refine ⟨⟨⟨⟨.text _, Json.readable_ofInt _, nofun⟩, ?_⟩, ?_⟩, .text _, nofun⟩
  · split_ifs
    · exact nofun
    · exact List.forall_mem_singleton.mpr (.text _)
  · split_ifs
    · exact nofun
    · exact List.forall_mem_singleton.mpr (.text _)

end Failure

namespace Result

/-- Results as they are made: valid values under keys in order, integers of 64 bits, and nanoseconds
within a second. -/
structure Valid (r : Result) : Prop where
  value : r.value.Valid
  bindings_sorted : Keyed.Sorted (r.bindings.getD [])
  bindings_valid : ∀ b ∈ r.bindings.getD [], b.2.Valid
  steps : Json.IsInt64 r.steps
  nodeId : ∀ f, r.failure = some f → Json.IsInt64 f.nodeId
  nanos : r.completedAt.nanos < 10 ^ 9
  duration : Json.IsInt64 r.duration

/-- A result as it comes back from its document. No bindings and empty ones are the same there. -/
def carried (r : Result) : Result :=
  { r with
    status := .ofText r.status.text
    value := r.value.carried
    bindings :=
      let fs := Value.carriedFields (r.bindings.getD [])
      if fs = [] then none else some fs
    failure := r.failure.map Failure.carried
    completedAt := r.completedAt.reread }

/-- The members of a result's document, with the documents of its value and its bindings. -/
def members (r : Result) (value : Json) (bindings : List (String × Json)) : List (String × Json) :=
  [("message_id", .text r.messageId), ("program", .text r.program), ("status", .text r.status.text)] ++
    (if r.value.isNull then [] else [("value", value)]) ++
    (if bindings.isEmpty then [] else [("bindings", .object bindings)]) ++
    [("steps", Json.ofInt r.steps)] ++
    (match r.failure with
      | some f => [("failure", f.toJson)]
      | none => []) ++
    [("completed_at", .text r.completedAt.text), ("duration", Json.ofInt r.duration)]

theorem encode_eq_ok {r : Result} {t : String} (ht : r.encode = .ok t) :
    ∃ (value : Json) (bindings : List (String × Json)), r.value.toJson = .ok value ∧
      Value.jsonMembers (r.bindings.getD []) = .ok bindings ∧ r.completedAt.hasFourDigitYear = true ∧
      r.completedAt.zone.isWithinDay = true ∧ t = Json.render (.object (r.members value bindings)) := by
  obtain ⟨j, hj, rfl⟩ := map_eq_ok ht
  obtain ⟨value, hvalue, h⟩ := bind_eq_ok hj
  obtain ⟨bindings, hbindings, h⟩ := bind_eq_ok h
  obtain ⟨time, htime, h⟩ := bind_eq_ok h
  obtain ⟨hyear, hzone, rfl⟩ := Value.timeJson_eq_ok htime
  exact ⟨value, bindings, hvalue, hbindings, hyear, hzone, congrArg _ (Except.ok.inj h).symm⟩

variable {r : Result} {value : Json} {bindings : List (String × Json)}

theorem encode_of_values (hvalue : r.value.toJson = .ok value)
    (hbindings : Value.jsonMembers (r.bindings.getD []) = .ok bindings)
    (htime : Value.timeJson r.completedAt = .ok (.text r.completedAt.text)) :
    r.encode = .ok (Json.render (.object (r.members value bindings))) := by
  rw [encode, toJson, hvalue, hbindings, htime]
  rfl

theorem readable_members (hvalue : value.Readable) (hbindings : ∀ b ∈ bindings, b.2.Readable) :
    (Json.object (r.members value bindings)).Readable := by
  refine .object ?_
  simp only [members, List.forall_mem_append, List.forall_mem_cons]
  refine ⟨⟨⟨⟨⟨⟨.text _, .text _, .text _, nofun⟩, ?_⟩, ?_⟩, Json.readable_ofInt _, nofun⟩, ?_⟩, .text _,
    Json.readable_ofInt _, nofun⟩
  · split_ifs
    · exact nofun
    · exact List.forall_mem_singleton.mpr hvalue
  · split_ifs
    · exact nofun
    · exact List.forall_mem_singleton.mpr (.object hbindings)
  · cases r.failure with
    | none => exact nofun
    | some f => exact List.forall_mem_singleton.mpr f.readable_toJson

theorem foldlM_value (hvalue : Value.ReadsAs value r.value.carried) {g : Result} (hg : g.value = .null) :
    (if r.value.isNull then [] else [("value", value)]).foldlM readMember g =
      some { g with value := r.value.carried } := by
  split_ifs with hnull
  · have hcarried : r.value.carried = .null := by
      cases hv : r.value with
      | null => rfl
      | _ =>
        rw [hv] at hnull
        cases hnull
    rw [hcarried, ← hg]
    rfl
  · change (Value.ofJson? value).map _ >>= _ = _
    rw [hvalue.read]
    rfl

theorem foldlM_bindings {fs : List (String × Value)} (hbindings : Keyed.Related Value.ReadsAs bindings fs)
    (hs : Keyed.Sorted fs) {g : Result} (hg : g.bindings = none) :
    (if bindings.isEmpty then [] else [("bindings", Json.object bindings)]).foldlM readMember g =
      some { g with bindings := if fs = [] then none else some fs } := by
  split_ifs with hempty hfs hfs
  · rw [← hg]
    rfl
  · rw [List.isEmpty_iff] at hempty
    subst hempty
    exact absurd (List.forall₂_nil_left_iff.mp hbindings) hfs
  · subst hfs
    rw [List.forall₂_nil_right_iff.mp hbindings] at hempty
    exact absurd rfl hempty
  · change (readBindings g.bindings (.object bindings)).map _ >>= _ = _
    rw [readBindings, (Value.ofMembers?_of_related hbindings).2, hg]
    change some { g with bindings := some (Keyed.ofList fs) } = _
    rw [Keyed.ofList_of_sorted hs]

theorem foldlM_failure (hnode : ∀ f, r.failure = some f → Json.IsInt64 f.nodeId) {g : Result}
    (hg : g.failure = none) :
    (match r.failure with
      | some f => [("failure", f.toJson)]
      | none => []).foldlM readMember g = some { g with failure := r.failure.map Failure.carried } := by
  cases hf : r.failure with
  | none =>
    change some g = _
    rw [Option.map_none, ← hg]
  | some f =>
    change (Failure.ofJson? g.failure f.toJson).map _ >>= _ = _
    rw [hg, Failure.ofJson?_toJson (hnode f hf)]
    rfl

theorem readMember_steps (h : Json.IsInt64 r.steps) (g : Result) :
    readMember g ("steps", Json.ofInt r.steps) = some { g with steps := r.steps } := by
  have hnumber : Json.integerOr g.steps (Json.ofInt r.steps) = some r.steps := Json.integerOf?_toString h
  simp [readMember, Json.knownName, names, hnumber]

theorem readMember_duration (h : Json.IsInt64 r.duration) (g : Result) :
    readMember g ("duration", Json.ofInt r.duration) = some { g with duration := r.duration } := by
  have hnumber : Json.integerOr g.duration (Json.ofInt r.duration) = some r.duration :=
    Json.integerOf?_toString h
  simp [readMember, Json.knownName, names, hnumber]

theorem readMember_completedAt (hnanos : r.completedAt.nanos < 10 ^ 9)
    (hyear : r.completedAt.hasFourDigitYear = true) (hzone : r.completedAt.zone.isWithinDay = true)
    (g : Result) : readMember g ("completed_at", .text r.completedAt.text) =
      some { g with completedAt := r.completedAt.reread } := by
  have htime : readInstant g.completedAt (.text r.completedAt.text) = some r.completedAt.reread :=
    Instant.ofText?_text hnanos hyear hzone
  simp [readMember, Json.knownName, names, htime]

/-- The document of a result reads as the result is carried. -/
theorem ofJson?_of_encode (h : r.Valid) {t : String} (ht : r.encode = .ok t) :
    ∃ j : Json, t = j.render ∧ j.Readable ∧ ofJson? j = some r.carried := by
  obtain ⟨value, bindings, hvalue, hbindings, hyear, hzone, rfl⟩ := encode_eq_ok ht
  have hvalueReads := h.value.carries value hvalue
  have hbindingsRead := Value.readsAs_jsonMembers (fun b hb => (h.bindings_valid b hb).carries) hbindings
  have hsorted := Value.sorted_carriedFields h.bindings_sorted
  refine ⟨_, rfl, readable_members hvalueReads.readable (Value.ofMembers?_of_related hbindingsRead).1, ?_⟩
  change List.foldlM readMember blank (r.members value bindings) = _
  have hstart : [("message_id", Json.text r.messageId), ("program", .text r.program),
      ("status", .text r.status.text)].foldlM readMember blank = some { blank with
        messageId := r.messageId, program := r.program, status := .ofText r.status.text } := rfl
  rw [blank] at hstart
  -- the members are read from the left, each into the record of those before it
  simp only [members, List.foldlM_append, hstart, blank, Option.bind_eq_bind, Option.bind_some,
    foldlM_value hvalueReads, foldlM_bindings hbindingsRead hsorted]
  simp only [List.foldlM_cons, List.foldlM_nil, Option.bind_eq_bind, Option.bind_some, Option.pure_def,
    foldlM_failure h.nodeId, readMember_steps h.steps, readMember_completedAt h.nanos hyear hzone,
    readMember_duration h.duration]
  rfl

/-- A result comes back from its text as it is carried. -/
theorem decode?_encode (h : r.Valid) {t : String} (ht : r.encode = .ok t) :
    decode? t = some r.carried := by
  obtain ⟨j, rfl, hreadable, hread⟩ := ofJson?_of_encode h ht
  rw [decode?, Json.parse?_render hreadable, Option.bind_some, hread]

theorem decode?_encode_line (h : r.Valid) {t : String} (ht : r.encode = .ok t) :
    decode? (t ++ "\n") = some r.carried := by
  obtain ⟨j, rfl, hreadable, hread⟩ := ofJson?_of_encode h ht
  rw [decode?, Json.parse?_render_line hreadable, Option.bind_some, hread]

/-- A result and what it is once it was written as a text and read again. -/
structure ComesBackAs (r r' : Result) : Prop where
  read : ∃ t, r.encode = .ok t ∧ decode? t = some r'
  carried : r' = r.carried

theorem Valid.comesBackAs (h : r.Valid) {t : String} (ht : r.encode = .ok t) : r.ComesBackAs r.carried :=
  ⟨⟨t, ht, decode?_encode h ht⟩, rfl⟩

/-- A result and what is shown for it: with the same id and status, and with a document if it has one. -/
structure Resembles (r r' : Result) : Prop where
  messageId : r'.messageId = r.messageId
  status : r'.status.text = r.status.text
  valid : r'.Valid
  encode : (∃ t, r.encode = .ok t) → ∃ t, r'.encode = .ok t

theorem Valid.resembles (h : r.Valid) : r.Resembles r := ⟨rfl, rfl, h, fun hencode => hencode⟩

/-- Nothing of that is lost on the way through a document. -/
theorem ComesBackAs.resembles {r r' : Result} (h : r.ComesBackAs r') (hr : r.Valid) :
    r.Resembles r' := by
  obtain ⟨⟨t, ht, -⟩, rfl⟩ := h
  obtain ⟨value, bindings, hvalue, hbindings, hyear, hzone, -⟩ := encode_eq_ok ht
  have hread : r.value.carried.Read := Value.read_ofJson? value (hr.value.carries value hvalue).read
  have hfields : ∀ b ∈ Value.carriedFields (r.bindings.getD []), b.2.Read :=
    Value.read_ofMembers? bindings (Value.ofMembers?_of_related
      (Value.readsAs_jsonMembers (fun b hb => (hr.bindings_valid b hb).carries) hbindings)).2
  have hcarried : r.carried.bindings.getD [] = Value.carriedFields (r.bindings.getD []) := by
    unfold Result.carried
    dsimp only
    split_ifs with hnone
    · exact hnone.symm
    · rfl
  refine ⟨rfl, Status.text_ofText _, ⟨hread.valid, ?_, ?_, hr.steps, ?_, ?_, hr.duration⟩, fun _ => ?_⟩
  · rw [hcarried]
    exact Value.sorted_carriedFields hr.bindings_sorted
  · rw [hcarried]
    exact fun b hb => (hfields b hb).valid
  · intro f hf
    obtain ⟨g, hg, rfl⟩ := Option.map_eq_some_iff.mp hf
    exact hr.nodeId g hg
  · exact (Instant.nanos_reread _).trans_lt hr.nanos
  · obtain ⟨value', hvalue'⟩ := hread.hasDocument
    obtain ⟨bindings', hbindings'⟩ := Value.jsonMembers_eq_ok_iff.mpr fun b hb => (hfields b hb).hasDocument
    have hyear' : r.carried.completedAt.hasFourDigitYear = true := by
      rw [Instant.hasFourDigitYear, Result.carried, Instant.civil_reread]
      exact hyear
    exact ⟨_, encode_of_values hvalue' (hcarried ▸ hbindings')
      (Value.timeJson_of hyear' (Instant.isWithinDay_reread hzone))⟩

end Result
end Courier
