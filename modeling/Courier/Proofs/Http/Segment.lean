import Courier.Http.Route
import Courier.Http.Target
import Courier.Proofs.Program.Fields
import Courier.Proofs.Text.Coding

/-! Texts as segments of a path. A client escapes the bytes of a text that it does not want to send as they
are, and every client has its own choice of them; only a few must be escaped. The path that routes are
matched against is decoded if the client's choice was the usual one, and else it stands as it was sent. -/
namespace Courier

namespace Percent

variable {plain other : UInt8 → Bool} {b : UInt8} {bs : List UInt8}

theorem hexValue_upperHex : ∀ n < 16, Json.hexValue (upperHex n) = some n := by decide

theorem utf8EncodeChar_upperHex : ∀ n < 16, (String.utf8EncodeChar (upperHex n)).length = 1 := by
  decide

/-- One byte, as it is or escaped. -/
def encodeByte (plain : UInt8 → Bool) (b : UInt8) : List Char :=
  if plain b then [Char.ofNat b.toNat] else ['%', upperHex (b.toNat / 16), upperHex (b.toNat % 16)]

/-- Bytes of which some are left as they are. -/
def encode (plain : UInt8 → Bool) (bs : List UInt8) : List Char := bs.flatMap (encodeByte plain)

theorem encodePath_eq (bs : List UInt8) : encodePath bs = encode isPlain bs := rfl

theorem encode_cons (plain : UInt8 → Bool) (b : UInt8) (bs : List UInt8) :
    encode plain (b :: bs) = encodeByte plain b ++ encode plain bs := List.flatMap_cons

theorem encode_append (plain : UInt8 → Bool) (bs cs : List UInt8) :
    encode plain (bs ++ cs) = encode plain bs ++ encode plain cs := List.flatMap_append

theorem encodeByte_of_plain (h : plain b = true) : encodeByte plain b = [Char.ofNat b.toNat] := if_pos h

theorem encodeByte_of_not_plain (h : plain b = false) :
    encodeByte plain b = ['%', upperHex (b.toNat / 16), upperHex (b.toNat % 16)] :=
  if_neg (Bool.eq_false_iff.mp h)

/-- Bytes that can stand for themselves: those of one character, less the one that begins an escape. -/
def Bare (plain : UInt8 → Bool) : Prop := ∀ b, plain b = true → b.toNat < 0x80 ∧ b.toNat ≠ 0x25

theorem bare_isPlain : Bare isPlain := by
  have hall : ∀ n < 256, isPlain (UInt8.ofNat n) = true → n < 0x80 ∧ n ≠ 0x25 := by decide +kernel
  intro b hb
  exact hall b.toNat b.toNat_lt (UInt8.ofNat_toNat.symm ▸ hb)

theorem Bare.ofNat_ne_percent (h : Bare plain) (hb : plain b = true) : Char.ofNat b.toNat ≠ '%' := by
  intro heq
  have hn := Text.toNat_ofNat b.toNat (h b hb).1
  rw [heq] at hn
  exact (h b hb).2 hn.symm

theorem decode?_cons {c : Char} (hc : c ≠ '%') (cs : List Char) :
    decode? (c :: cs) = (decode? cs).map (String.utf8EncodeChar c ++ ·) := by
  rw [decode?, Text.utf8Bytes_ofList, List.flatMap_singleton]
  · exact fun _ _ _ h _ => hc h
  · exact hc

/-- Characters that stand for themselves. -/
theorem decode?_append {cs : List Char} (hcs : '%' ∉ cs) (rest : List Char) :
    decode? (cs ++ rest) = (decode? rest).map (cs.flatMap String.utf8EncodeChar ++ ·) := by
  induction cs with
  | nil => exact Option.map_id'.symm
  | cons c cs ih =>
    obtain ⟨hc, hcs⟩ := not_or.mp (List.mem_cons.not.mp hcs)
    rw [List.cons_append, decode?_cons (Ne.symm hc), ih hcs, Option.map_map, List.flatMap_cons]
    simp only [Function.comp_def, List.append_assoc]

theorem decode?_encodeByte (h : Bare plain) (b : UInt8) (rest : List Char) :
    decode? (encodeByte plain b ++ rest) = (decode? rest).map (b :: ·) := by
  have hb := b.toNat_lt
  cases hplain : plain b with
  | true =>
    rw [encodeByte_of_plain hplain, List.singleton_append, decode?_cons (h.ofNat_ne_percent hplain),
      Text.utf8EncodeChar_ofNat _ (h b hplain).1, UInt8.ofNat_toNat]
    rfl
  | false =>
    have hvalue : UInt8.ofNat (b.toNat / 16 * 16 + b.toNat % 16) = b := uint8_ofNat_eq (by omega)
    rw [encodeByte_of_not_plain hplain]
    change decode? ('%' :: _ :: _ :: rest) = _
    rw [decode?, hexValue_upperHex _ (by omega), hexValue_upperHex _ (by omega)]
    dsimp only
    rw [hvalue]

theorem decode?_encode (h : Bare plain) (bs : List UInt8) : decode? (encode plain bs) = some bs := by
  induction bs with
  | nil => rfl
  | cons b bs ih => rw [encode_cons, decode?_encodeByte h, ih, Option.map_some]

/-- Two choices of bytes write some bytes in the same way if they agree on all of them. -/
theorem encode_eq_iff (h : Bare plain) (h' : Bare other) (bs : List UInt8) :
    encode plain bs = encode other bs ↔ ∀ b ∈ bs, plain b = other b := by
  induction bs with
  | nil => exact ⟨fun _ => nofun, fun _ => rfl⟩
  | cons b bs ih =>
    rw [encode_cons, encode_cons, List.forall_mem_cons]
    cases hb : plain b <;> cases hb' : other b
    -- a byte that only one of them escapes makes a difference at once
    case true.false =>
      rw [encodeByte_of_plain hb, encodeByte_of_not_plain hb']
      exact ⟨fun heq => absurd (List.head_eq_of_cons_eq heq) (h.ofNat_ne_percent hb), nofun⟩
    case false.true =>
      rw [encodeByte_of_not_plain hb, encodeByte_of_plain hb']
      exact ⟨fun heq => absurd (List.head_eq_of_cons_eq heq).symm (h'.ofNat_ne_percent hb'), nofun⟩
    case true.true =>
      rw [encodeByte_of_plain hb, encodeByte_of_plain hb', List.append_cancel_left_eq, ih]
      exact ⟨fun hall => ⟨rfl, hall⟩, fun hall => hall.2⟩
    case false.false =>
      rw [encodeByte_of_not_plain hb, encodeByte_of_not_plain hb', List.append_cancel_left_eq, ih]
      exact ⟨fun hall => ⟨rfl, hall⟩, fun hall => hall.2⟩

/-- An escape takes three characters for one. -/
theorem length_utf8Bytes_encode (h : Bare plain) (bs : List UInt8) :
    (Text.utf8Bytes (String.ofList (encode plain bs))).length =
      bs.length + 2 * bs.countP fun b => !plain b := by
  induction bs with
  | nil => rfl
  | cons b bs ih =>
    have hb := b.toNat_lt
    rw [encode_cons, String.ofList_append, Text.utf8Bytes_append, List.length_append, ih,
      List.length_cons, List.countP_cons]
    cases hplain : plain b with
    | true =>
      rw [encodeByte_of_plain hplain, Text.utf8Bytes_singleton (h b hplain).1]
      simp only [List.length_singleton, Bool.not_true, Bool.false_eq_true, if_false]
      omega
    | false =>
      rw [encodeByte_of_not_plain hplain, Text.utf8Bytes_ofList]
      have hpercent : (String.utf8EncodeChar '%').length = 1 := rfl
      simp only [List.flatMap_cons, List.flatMap_nil, List.length_append, List.length_nil, hpercent,
        utf8EncodeChar_upperHex _ (by omega : b.toNat / 16 < 16),
        utf8EncodeChar_upperHex _ (by omega : b.toNat % 16 < 16), Bool.not_false, if_true]
      omega

/-- Bytes that are all left as they are. -/
theorem utf8Bytes_encode (h : Bare plain) (hbs : ∀ b ∈ bs, plain b = true) :
    Text.utf8Bytes (String.ofList (encode plain bs)) = bs := by
  induction bs with
  | nil => rfl
  | cons b bs ih =>
    obtain ⟨hb, hbs⟩ := List.forall_mem_cons.mp hbs
    rw [encode_cons, encodeByte_of_plain hb, String.ofList_append, Text.utf8Bytes_append,
      Text.utf8Bytes_singleton (h b hb).1, ih hbs]
    rfl

end Percent

namespace Http

/-- The bytes that may stand as they are in a segment of a path. -/
def mayStand (b : UInt8) : Bool :=
  (Percent.isPlain b && b.toNat != 0x2f) || [0x21, 0x27, 0x28, 0x29, 0x2a].contains b.toNat

/-- A client's choice of the bytes that it sends as they are. -/
structure Escaping where
  plain : UInt8 → Bool
  legal : ∀ b, plain b = true → mayStand b = true

theorem mayStand_cases : ∀ n < 256, mayStand (UInt8.ofNat n) = true →
    n < 0x80 ∧ n ≠ 0x25 ∧ Char.ofNat n ≠ '/' ∧ Char.ofNat n ≠ '?' := by
  decide +kernel

theorem upperHex_ne : ∀ n < 16, Percent.upperHex n ≠ '/' ∧ Percent.upperHex n ≠ '?' := by decide

namespace Escaping

/-- The choice of a client that escapes what is usually escaped, and the separator of segments. -/
def usual : Escaping where
  plain b := Percent.isPlain b && b.toNat != 0x2f
  legal _ hb := Bool.or_eq_true_iff.mpr (.inl hb)

variable (e : Escaping) (id : String)

/-- A text as one segment. -/
def segment : String := String.ofList (Percent.encode e.plain (Text.utf8Bytes id))

theorem toList_segment :
    (e.segment id).toList = Percent.encode e.plain (Text.utf8Bytes id) := String.toList_ofList

/-- The path at which a client looks for the result of a message. -/
def path : String := "/v1/results/" ++ e.segment id

/-- Whether the client escapes just the bytes of a text that are usually escaped. -/
def Usual : Prop := ∀ b ∈ Text.utf8Bytes id, e.plain b = Percent.isPlain b

instance : Decidable (e.Usual id) := inferInstanceAs (Decidable (∀ b ∈ Text.utf8Bytes id, _))

/-- The id that the path names once it has arrived. -/
def named : String := if e.Usual id then id else e.segment id

theorem plain_cases {b : UInt8} (h : e.plain b = true) :
    b.toNat < 0x80 ∧ b.toNat ≠ 0x25 ∧ Char.ofNat b.toNat ≠ '/' ∧ Char.ofNat b.toNat ≠ '?' :=
  mayStand_cases b.toNat b.toNat_lt (UInt8.ofNat_toNat.symm ▸ e.legal b h)

theorem bare : Percent.Bare e.plain := fun _ hb => ⟨(e.plain_cases hb).1, (e.plain_cases hb).2.1⟩

theorem mem_segment {c : Char} (hc : c ∈ (e.segment id).toList) : c ≠ '/' ∧ c ≠ '?' := by
  rw [toList_segment, Percent.encode, List.mem_flatMap] at hc
  obtain ⟨b, -, hc⟩ := hc
  have hb := b.toNat_lt
  cases hplain : e.plain b with
  | true =>
    rw [Percent.encodeByte_of_plain hplain, List.mem_singleton] at hc
    rw [hc]
    exact (e.plain_cases hplain).2.2
  | false =>
    rw [Percent.encodeByte_of_not_plain hplain] at hc
    rcases List.mem_cons.mp hc with rfl | hc
    · decide
    rcases List.mem_cons.mp hc with rfl | hc
    · exact upperHex_ne _ (by omega)
    · rw [List.mem_singleton.mp hc]
      exact upperHex_ne _ (by omega)

theorem slash_mem_utf8Bytes : '/' ∈ id.toList ↔ 0x2f ∈ Text.utf8Bytes id := by
  rw [Text.utf8Bytes_eq, List.mem_flatMap]
  constructor
  · intro h
    exact ⟨'/', h, List.mem_singleton.mpr rfl⟩
  · rintro ⟨c, hc, hmem⟩
    have hn := Text.mem_utf8EncodeChar (by decide) hmem
    have hslash : c = '/' := Char.toNat_inj.mp hn
    rwa [← hslash]

/-- Nobody may leave the separator as it is. -/
theorem plain_slash : e.plain 0x2f = false :=
  Bool.eq_false_iff.mpr fun hplain => absurd (e.legal 0x2f hplain) (by decide)

theorem not_usual_of_slash (h : '/' ∈ id.toList) : ¬ e.Usual id := by
  intro husual
  have hplain := husual 0x2f ((slash_mem_utf8Bytes id).mp h)
  exact absurd (e.plain_slash.symm.trans hplain) (by decide)

theorem not_mem_named : '/' ∉ (e.named id).toList := by
  rw [named]
  split_ifs with husual
  · exact fun h => e.not_usual_of_slash id h husual
  · exact fun h => (e.mem_segment id h).1 rfl

/-- A path names the text that was written into it if the client escapes as it is usual or does not need
to escape anything. -/
theorem named_eq_iff :
    e.named id = id ↔ e.Usual id ∨ ∀ b ∈ Text.utf8Bytes id, e.plain b = true := by
  rw [named]
  split_ifs with husual
  · exact iff_of_true rfl (.inl husual)
  · rw [or_iff_right husual]
    constructor
    · -- An escape would have made the text longer.
      intro heq b hb
      have hlength := Percent.length_utf8Bytes_encode e.bare (Text.utf8Bytes id)
      rw [← segment, heq] at hlength
      have hnone : ((Text.utf8Bytes id).countP fun b => !e.plain b) = 0 := by omega
      simpa using List.countP_eq_zero.mp hnone b hb
    · exact fun hall => Text.utf8Bytes_injective (Percent.utf8Bytes_encode e.bare hall)

theorem named_ne_of_slash (h : '/' ∈ id.toList) : e.named id ≠ id := by
  rw [Ne, named_eq_iff, not_or]
  refine ⟨e.not_usual_of_slash id h, fun hall => ?_⟩
  have hplain := hall 0x2f ((slash_mem_utf8Bytes id).mp h)
  exact absurd (e.plain_slash.symm.trans hplain) (by decide)

theorem usual_named (h : '/' ∉ id.toList) : usual.named id = id := by
  refine if_pos fun b hb => ?_
  have hne : b.toNat ≠ 0x2f := by
    intro heq
    have hslash : b = 0x2f := UInt8.toNat_inj.mp heq
    exact h ((slash_mem_utf8Bytes id).mpr (hslash ▸ hb))
  exact (congrArg _ (bne_iff_ne.mpr hne)).trans (Bool.and_true _)

theorem named_ne_empty (h : id ≠ "") : e.named id ≠ "" := by
  rw [named]
  split_ifs
  · exact h
  · intro hempty
    have hlength := Percent.length_utf8Bytes_encode e.bare (Text.utf8Bytes id)
    rw [← segment, hempty] at hlength
    change 0 = _ at hlength
    have hnil : Text.utf8Bytes id = [] := List.eq_nil_of_length_eq_zero (by omega)
    exact h (Text.utf8Bytes_injective hnil)

/-- The target that arrives. -/
def target : Target where
  path := "/v1/results/" ++ id
  rawPath := if e.Usual id then none else some (e.path id)
  query := []

theorem routePath_target : (e.target id).routePath = "/v1/results/" ++ e.named id := by
  rw [Target.routePath, target, named]
  dsimp only
  split_ifs
  · rfl
  · rfl

theorem ofText?_path : Target.ofText? (e.path id) = some (e.target id) := by
  have hpath : (e.path id).toList = "/v1/results/".toList ++ (e.segment id).toList := String.toList_append
  have hquery : '?' ∉ (e.path id).toList := by
    rw [hpath, List.mem_append, not_or]
    exact ⟨by decide, fun h => (e.mem_segment id h).2 rfl⟩
  have hdecode : Percent.decode? (e.path id).toList =
      some (Text.utf8Bytes ("/v1/results/" ++ id)) := by
    rw [hpath, Percent.decode?_append (by decide), toList_segment, Percent.decode?_encode e.bare,
      Text.utf8Bytes_append, Text.utf8Bytes_eq "/v1/results/"]
    rfl
  have hstart : Percent.encodePath (Text.utf8Bytes "/v1/results/") = "/v1/results/".toList := by
    decide +kernel
  -- There is nothing to escape in front of the segment, so the segment decides which form the path has.
  have husual : Percent.encodePath (Text.utf8Bytes ("/v1/results/" ++ id)) = (e.path id).toList ↔
      e.Usual id := by
    rw [Text.utf8Bytes_append, Percent.encodePath_eq, Percent.encode_append, ← Percent.encodePath_eq,
      hstart, hpath, List.append_cancel_left_eq, toList_segment,
      Percent.encode_eq_iff Percent.bare_isPlain e.bare]
    exact forall₂_congr fun _ _ => eq_comm
  obtain ⟨rest, hrest⟩ : ∃ rest, (e.path id).toList = '/' :: rest := ⟨_, hpath⟩
  rw [Target.ofText?, Text.cutChars_of_not_mem hquery]
  simp only [hrest]
  simp only [← hrest, hdecode, Text.ofUtf8_utf8Bytes, String.ofList_toList, husual, target,
    Option.getD_none]

end Escaping

/-- A path that names a result has two routes. -/
theorem Route.ofPath_result (hasMetrics : Bool) {name : String} (hname : name ≠ "")
    (hslash : '/' ∉ name.toList) : Route.ofPath hasMetrics ("/v1/results/" ++ name) =
      [("DELETE", .deleteResult name), ("GET", .result name)] := by
  have hpath : ("/v1/results/" ++ name).toList =
      '/' :: 'v' :: '1' :: '/' :: 'r' :: "esults/".toList ++ name.toList := String.toList_append
  have hsplit : Text.split '/' ("/v1/results/" ++ name) = ["", "v1", "results", name] := by
    rw [Text.split, hpath]
    simp [Text.splitChars, Text.splitChars_of_not_mem hslash]
  have hne {s : String} (hs : ∀ rest, s.toList ≠ '/' :: 'v' :: rest) :
      "/v1/results/" ++ name ≠ s := fun heq => hs _ (heq ▸ hpath)
  unfold ofPath
  split
  case h_6 =>
    rw [hsplit]
    exact if_neg hname
  -- the paths that are written out have another second letter
  all_goals
    next heq => exact absurd heq (hne (by simp))

theorem Route.find_result (hasMetrics : Bool) {name : String} (hname : name ≠ "")
    (hslash : '/' ∉ name.toList) :
    Route.find hasMetrics "GET" ("/v1/results/" ++ name) = .route (.result name) ∧
      Route.find hasMetrics "DELETE" ("/v1/results/" ++ name) = .route (.deleteResult name) := by
  rw [find, find, ofPath_result hasMetrics hname hslash]
  exact ⟨rfl, rfl⟩

end Http
end Courier
