import Courier.Json.Writer
import Courier.Proofs.Number.Numeral

/-! Reading a written document gives the document back, if its numbers are written as numbers are. Every
reader is followed over the text that its writer makes and stops right behind it. -/
namespace Courier.Json

theorem hexValue_hexDigit : ∀ d < 16, hexValue (Text.hexDigit d) = some d := by decide

theorem readHex4_hexDigits {n : ℕ} (hn : n < 65536) (rest : List Char) :
    readHex4 (Text.hexDigits 4 n ++ rest) = some (n, rest) := by
  have hdigits : Text.hexDigits 4 n = [Text.hexDigit (n / 16 / 16 / 16 % 16),
      Text.hexDigit (n / 16 / 16 % 16), Text.hexDigit (n / 16 % 16), Text.hexDigit (n % 16)] := rfl
  rw [hdigits]
  simp only [List.cons_append, List.nil_append, readHex4, hexValue_hexDigit _ (Nat.mod_lt _ (by decide)),
    Option.bind_eq_bind, Option.bind_some, Option.some.injEq, Prod.mk.injEq, and_true]
  omega

theorem eq_ofNat {c : Char} {n : ℕ} (h : c.toNat = n) : c = Char.ofNat n := by
  rw [← h, Char.ofNat_toNat]

/-- The characters written by code point lie below the surrogates, so that one escape is enough. -/
theorem readString_codePoint {c : Char} (hc : c.toNat < 0xd800) (fuel : ℕ) (acc rest : List Char) :
    readString (fuel + 1) acc ('\\' :: 'u' :: Text.hexDigits 4 c.toNat ++ rest) =
      readString fuel (c :: acc) rest := by
  have hjoin : joinSurrogates c.toNat rest = (c, rest) := by
    unfold joinSurrogates
    rw [if_pos (.inl hc), Char.ofNat_toNat]
  rw [List.cons_append, List.cons_append, readString, if_neg (by decide), if_pos rfl,
    readHex4_hexDigits (by omega)]
  simp only [hjoin]

/-- One character is read back from its escaped form. -/
theorem readString_escapeChar (c : Char) (fuel : ℕ) (acc rest : List Char) :
    readString (fuel + 1) acc (escapeChar c ++ rest) = readString fuel (c :: acc) rest := by
  simp only [escapeChar]
  split_ifs with hquote hslash hb hf hn hr ht hcode
  · subst hquote
    rfl
  · subst hslash
    rfl
  · obtain rfl := eq_ofNat hb
    rfl
  · obtain rfl := eq_ofNat hf
    rfl
  · obtain rfl := eq_ofNat hn
    rfl
  · obtain rfl := eq_ofNat hr
    rfl
  · obtain rfl := eq_ofNat ht
    rfl
  · apply readString_codePoint
    rcases hcode with h | rfl | rfl | rfl | h | h
    · omega
    · decide
    · decide
    · decide
    · omega
    · omega
  · rw [List.singleton_append, readString.eq_def]
    simp only [if_neg hquote, if_neg hslash]
    rw [if_neg (by omega)]

theorem readString_quoteChars (cs : List Char) : ∀ (fuel : ℕ) (acc rest : List Char),
    cs.length < fuel →
    readString fuel acc (cs.flatMap escapeChar ++ '"' :: rest) =
      some (String.ofList (acc.reverse ++ cs), rest) := by
  induction cs with
  | nil =>
    intro fuel acc rest hfuel
    obtain ⟨fuel, rfl⟩ : ∃ k, fuel = k + 1 := ⟨fuel - 1, by omega⟩
    rw [List.append_nil]
    rfl
  | cons c cs ih =>
    intro fuel acc rest hfuel
    obtain ⟨fuel, rfl⟩ : ∃ k, fuel = k + 1 := ⟨fuel - 1, by omega⟩
    rw [List.flatMap_cons, List.append_assoc, readString_escapeChar, ih fuel _ _ (by
      rw [List.length_cons] at hfuel
      omega), List.reverse_cons, List.append_assoc, List.singleton_append]

theorem length_le_length_flatMap (cs : List Char) : cs.length ≤ (cs.flatMap escapeChar).length := by
  induction cs with
  | nil => exact le_rfl
  | cons c cs ih =>
    have hpos : 1 ≤ (escapeChar c).length := by
      simp only [escapeChar]
      split_ifs <;> simp
    rw [List.flatMap_cons, List.length_append, List.length_cons]
    omega

theorem toList_quote (s : String) : (quote s).toList = '"' :: (s.toList.flatMap escapeChar ++ ['"']) := by
  rw [quote, String.toList_ofList, quoteChars]

/-- A quoted text is read up to its closing quote, with the fuel that its reader is given. -/
theorem readString_quote (s : String) (rest : List Char) :
    readString ((s.toList.flatMap escapeChar ++ '"' :: rest).length + 1) []
      (s.toList.flatMap escapeChar ++ '"' :: rest) = some (s, rest) := by
  have hlength := length_le_length_flatMap s.toList
  rw [readString_quoteChars s.toList _ [] rest (by rw [List.length_append]; omega), List.reverse_nil,
    List.nil_append, String.ofList_toList]

/-- Documents whose numbers are written as numbers are. -/
inductive Readable : Json → Prop
  | null : Readable .null
  | bool (b : Bool) : Readable (.bool b)
  | number (n : Numeral) : Readable (.number (String.ofList n.chars))
  | text (s : String) : Readable (.text s)
  | list {items : List Json} (h : ∀ j ∈ items, Readable j) : Readable (.list items)
  | object {members : List (String × Json)} (h : ∀ m ∈ members, Readable m.2) :
      Readable (.object members)

/-- No character that starts a number has another meaning. -/
theorem numberHead_ne {c d : Char} (hc : c = '-' ∨ c.isDigit = true) (hd : d.isDigit = false)
    (hminus : d ≠ '-') : c ≠ d := by
  rintro rfl
  rcases hc with h | h
  · exact hminus h
  · rw [hd] at h
    cases h

theorem isSpace_numberHead {c : Char} (hc : c = '-' ∨ c.isDigit = true) : isSpace c = false := by
  simp [isSpace, numberHead_ne hc (d := ' ') rfl (by decide), numberHead_ne hc (d := '\t') rfl (by decide),
    numberHead_ne hc (d := '\n') rfl (by decide), numberHead_ne hc (d := '\r') rfl (by decide)]

theorem toList_render_list (items : List Json) : (Json.list items).render.toList =
    '[' :: ((String.intercalate "," (renderItems items)).toList ++ [']']) := by
  rw [render, String.toList_append, String.toList_append]
  rfl

theorem toList_render_object (members : List (String × Json)) : (Json.object members).render.toList =
    '\x7b' :: ((String.intercalate "," (renderMembers members)).toList ++ ['\x7d']) := by
  rw [render, String.toList_append, String.toList_append]
  rfl

/-- The first character of a document, by which its kind is told. -/
theorem Readable.exists_head {j : Json} (h : Readable j) :
    ∃ c cs, j.render.toList = c :: cs ∧ isSpace c = false ∧ c ≠ ']' := by
  cases h with
  | null => exact ⟨'n', _, by rw [render]; rfl, rfl, by decide⟩
  | bool b =>
    cases b with
    | true => exact ⟨'t', _, by rw [render]; rfl, rfl, by decide⟩
    | false => exact ⟨'f', _, by rw [render]; rfl, rfl, by decide⟩
  | number n =>
    obtain ⟨c, cs, hchars, hc⟩ := n.exists_head
    exact ⟨c, cs, by rw [render, String.toList_ofList, hchars], isSpace_numberHead hc,
      numberHead_ne hc rfl (by decide)⟩
  | text s => exact ⟨'"', _, by rw [render, toList_quote], rfl, by decide⟩
  | list h => exact ⟨'[', _, toList_render_list _, rfl, by decide⟩
  | object h => exact ⟨'\x7b', _, toList_render_object _, rfl, by decide⟩

theorem skipSpace_cons {c : Char} (h : isSpace c = false) (cs : List Char) :
    skipSpace (c :: cs) = c :: cs := by
  rw [skipSpace, List.dropWhile_cons_of_neg (by simp [h])]

/-- A document is read from its text, whatever stands behind it that does not carry on a number. -/
def ReadsBack (j : Json) : Prop :=
  ∀ (fuel : ℕ) (rest : List Char), 2 * j.render.toList.length ≤ fuel → Numeral.Ends rest →
    readValue fuel (j.render.toList ++ rest) = some (j, rest)

theorem readValue_number {c : Char} (hc : c = '-' ∨ c.isDigit = true) (fuel : ℕ) (cs : List Char) :
    readValue (fuel + 1) (c :: cs) = (readNumber (c :: cs)).map fun r => (.number r.1, r.2) := by
  have hquote : c ≠ '"' := numberHead_ne hc rfl (by decide)
  have hbracket : c ≠ '[' := numberHead_ne hc rfl (by decide)
  have hbrace : c ≠ '\x7b' := numberHead_ne hc rfl (by decide)
  rw [readValue.eq_def]
  simp only [skipSpace_cons (isSpace_numberHead hc)]
  exact if_pos hc

theorem readsBack_number (n : Numeral) : ReadsBack (.number (String.ofList n.chars)) := by
  intro fuel rest hfuel hrest
  obtain ⟨c, cs, hchars, hc⟩ := n.exists_head
  rw [render, String.toList_ofList] at hfuel ⊢
  obtain ⟨fuel, rfl⟩ : ∃ k, fuel = k + 1 := ⟨fuel - 1, by
    rw [hchars, List.length_cons] at hfuel
    omega⟩
  have hread := n.readNumber_chars hrest
  rw [hchars, List.cons_append] at hread ⊢
  rw [readValue_number hc, hread, ← hchars]
  rfl

theorem readsBack_word {j : Json} (hlength : 0 < j.render.toList.length)
    (hread : ∀ (fuel : ℕ) (rest : List Char),
      readValue (fuel + 1) (j.render.toList ++ rest) = some (j, rest)) : ReadsBack j := by
  intro fuel rest hfuel _
  obtain ⟨fuel, rfl⟩ : ∃ k, fuel = k + 1 := ⟨fuel - 1, by omega⟩
  exact hread fuel rest

theorem readsBack_text (s : String) : ReadsBack (.text s) := by
  have hchars : (render (.text s)).toList = '"' :: (s.toList.flatMap escapeChar ++ ['"']) := by
    rw [render, toList_quote]
  refine readsBack_word (by rw [hchars]; exact Nat.succ_pos _) fun fuel rest => ?_
  rw [hchars, List.cons_append, List.append_assoc, List.singleton_append, readValue.eq_def]
  simp only [skipSpace_cons (c := '"') rfl, readString_quote, Option.map_some]

/-- Parts with commas between them start with the first part. -/
theorem exists_toList_intercalate (part : String) (parts : List String) :
    ∃ tail, (String.intercalate "," (part :: parts)).toList = part.toList ++ tail := by
  cases parts with
  | nil => exact ⟨[], by rw [String.intercalate_singleton, List.append_nil]⟩
  | cons next parts =>
    rw [String.intercalate_cons_cons, String.append_assoc, String.toList_append]
    exact ⟨_, rfl⟩

theorem readItems_render {j : Json} {items : List Json} : (∀ i ∈ j :: items, ReadsBack i) →
    ∀ (fuel : ℕ) (rest : List Char),
      2 * (String.intercalate "," (renderItems (j :: items))).toList.length + 1 ≤ fuel →
      readItems fuel ((String.intercalate "," (renderItems (j :: items))).toList ++ ']' :: rest) =
        some (j :: items, rest) := by
  induction items generalizing j with
  | nil =>
    intro hback fuel rest hfuel
    rw [renderItems, renderItems, String.intercalate_singleton] at hfuel ⊢
    obtain ⟨fuel, rfl⟩ : ∃ k, fuel = k + 1 := ⟨fuel - 1, by omega⟩
    have hj := hback j List.mem_cons_self fuel (']' :: rest) (by omega) (by
      rintro c ⟨⟩
      decide)
    simp only [readItems, hj, skipSpace_cons (c := ']') rfl]
  | cons k items ih =>
    intro hback fuel rest hfuel
    have htext : (String.intercalate "," (renderItems (j :: k :: items))).toList =
        j.render.toList ++ ',' :: (String.intercalate "," (renderItems (k :: items))).toList := by
      rw [renderItems, renderItems, String.intercalate_cons_cons, String.toList_append,
        String.toList_append, List.append_assoc]
      rfl
    rw [htext, List.length_append, List.length_cons] at hfuel
    obtain ⟨fuel, rfl⟩ : ∃ k, fuel = k + 1 := ⟨fuel - 1, by omega⟩
    have hj := hback j List.mem_cons_self fuel (',' :: ((String.intercalate ","
      (renderItems (k :: items))).toList ++ ']' :: rest)) (by omega) (by
        rintro c ⟨⟩
        decide)
    have hrest := ih (fun i hi => hback i (List.mem_cons_of_mem _ hi)) fuel rest (by omega)
    rw [htext, List.append_assoc, List.cons_append, readItems]
    simp only [hj, skipSpace_cons (c := ',') rfl, hrest, Option.map_some]

theorem readsBack_list {items : List Json} (hread : ∀ j ∈ items, Readable j)
    (hback : ∀ j ∈ items, ReadsBack j) : ReadsBack (.list items) := by
  intro fuel rest hfuel _
  rw [toList_render_list, List.length_cons, List.length_append] at hfuel
  obtain ⟨fuel, rfl⟩ : ∃ k, fuel = k + 1 := ⟨fuel - 1, by omega⟩
  rw [toList_render_list, List.cons_append, List.append_assoc, List.singleton_append, readValue.eq_def]
  simp only [skipSpace_cons (c := '[') rfl]
  cases items with
  | nil =>
    rw [renderItems]
    rfl
  | cons j items =>
    have hitems := readItems_render hback fuel rest (by omega)
    obtain ⟨c, cs, hrender, hspace, hclose⟩ := (hread j List.mem_cons_self).exists_head
    obtain ⟨tail, htail⟩ := exists_toList_intercalate j.render (renderItems items)
    rw [renderItems, htail, hrender, List.cons_append, List.cons_append] at hitems ⊢
    simp only [skipSpace_cons hspace]
    -- The first item does not start as the closing bracket does.
    split
    · next heq => exact absurd (List.cons.inj heq).1 hclose
    · rw [hitems]
      rfl

/-- The text of one member, up to its value. -/
theorem toList_member (k : String) (j : Json) (rest : List Char) :
    (quote k ++ ":" ++ j.render).toList ++ rest =
      '"' :: (k.toList.flatMap escapeChar ++ '"' :: ':' :: (j.render.toList ++ rest)) := by
  rw [String.toList_append, String.toList_append, toList_quote]
  simp

theorem length_member (k : String) (j : Json) :
    j.render.toList.length < (quote k ++ ":" ++ j.render).toList.length := by
  rw [← List.append_nil (quote k ++ ":" ++ j.render).toList, toList_member]
  simp only [List.length_cons, List.length_append]
  omega

theorem readMembers_render {k : String} {j : Json} {members : List (String × Json)} :
    (∀ m ∈ (k, j) :: members, ReadsBack m.2) → ∀ (fuel : ℕ) (rest : List Char),
      2 * (String.intercalate "," (renderMembers ((k, j) :: members))).toList.length + 1 ≤ fuel →
      readMembers fuel ((String.intercalate "," (renderMembers ((k, j) :: members))).toList ++
        '\x7d' :: rest) = some ((k, j) :: members, rest) := by
  induction members generalizing k j with
  | nil =>
    intro hback fuel rest hfuel
    rw [renderMembers, renderMembers, String.intercalate_singleton] at hfuel ⊢
    obtain ⟨fuel, rfl⟩ : ∃ k, fuel = k + 1 := ⟨fuel - 1, by omega⟩
    have hlength := length_member k j
    have hj := hback _ List.mem_cons_self fuel ('\x7d' :: rest) (by simp only; omega) (by
      rintro c ⟨⟩
      decide)
    rw [toList_member, readMembers.eq_def]
    simp only [skipSpace_cons (c := '"') rfl, readString_quote, skipSpace_cons (c := ':') rfl, hj,
      skipSpace_cons (c := '\x7d') rfl]
  | cons m members ih =>
    obtain ⟨k', j'⟩ := m
    intro hback fuel rest hfuel
    have htext : (String.intercalate "," (renderMembers ((k, j) :: (k', j') :: members))).toList =
        (quote k ++ ":" ++ j.render).toList ++
          ',' :: (String.intercalate "," (renderMembers ((k', j') :: members))).toList := by
      rw [renderMembers, renderMembers, String.intercalate_cons_cons, String.toList_append,
        String.toList_append, List.append_assoc]
      rfl
    have hlength := length_member k j
    rw [htext, List.length_append, List.length_cons] at hfuel
    obtain ⟨fuel, rfl⟩ : ∃ k, fuel = k + 1 := ⟨fuel - 1, by omega⟩
    have hj := hback _ List.mem_cons_self fuel (',' :: ((String.intercalate ","
      (renderMembers ((k', j') :: members))).toList ++ '\x7d' :: rest)) (by simp only; omega) (by
        rintro c ⟨⟩
        decide)
    have hrest := ih (fun i hi => hback i (List.mem_cons_of_mem _ hi)) fuel rest (by omega)
    rw [htext, List.append_assoc, List.cons_append, toList_member, readMembers.eq_def]
    simp only [skipSpace_cons (c := '"') rfl, readString_quote, skipSpace_cons (c := ':') rfl, hj,
      skipSpace_cons (c := ',') rfl, hrest, Option.map_some]

theorem readsBack_object {members : List (String × Json)} (hback : ∀ m ∈ members, ReadsBack m.2) :
    ReadsBack (.object members) := by
  intro fuel rest hfuel _
  rw [toList_render_object, List.length_cons, List.length_append] at hfuel
  obtain ⟨fuel, rfl⟩ : ∃ k, fuel = k + 1 := ⟨fuel - 1, by omega⟩
  rw [toList_render_object, List.cons_append, List.append_assoc, List.singleton_append,
    readValue.eq_def]
  simp only [skipSpace_cons (c := '\x7b') rfl]
  cases members with
  | nil =>
    rw [renderMembers]
    rfl
  | cons m members =>
    obtain ⟨k, j⟩ := m
    have hmembers := readMembers_render hback fuel rest (by omega)
    obtain ⟨tail, htail⟩ := exists_toList_intercalate (quote k ++ ":" ++ j.render)
      (renderMembers members)
    rw [renderMembers, htail, List.append_assoc, toList_member] at hmembers ⊢
    simp only [skipSpace_cons (c := '"') rfl]
    change (readMembers fuel _).map _ = _
    rw [hmembers]
    rfl

theorem Readable.readsBack {j : Json} (h : Readable j) : ReadsBack j := by
  induction h with
  | null => exact readsBack_word (by rw [render]; decide) fun _ _ => by rw [render]; rfl
  | bool b =>
    cases b with
    | true => exact readsBack_word (by rw [render]; decide) fun _ _ => by rw [render]; rfl
    | false => exact readsBack_word (by rw [render]; decide) fun _ _ => by rw [render]; rfl
  | number n => exact readsBack_number n
  | text s => exact readsBack_text s
  | list h ih => exact readsBack_list h ih
  | object h ih => exact readsBack_object ih

/-- A written document is read as the document it is, also if blanks follow it. -/
theorem parse?_of_render {j : Json} (h : Readable j) (rest : List Char) (hends : Numeral.Ends rest)
    (hblank : skipSpace rest = []) : parse? (j.render ++ String.ofList rest) = some j := by
  have hread := h.readsBack (2 * (j.render.toList ++ rest).length + 2) rest
    (by rw [List.length_append]; omega) hends
  rw [parse?, String.toList_append, String.toList_ofList, readFirst?, hread]
  dsimp only
  rw [hblank]
  rfl

theorem parse?_render {j : Json} (h : Readable j) : parse? j.render = some j := by
  have hread := parse?_of_render h [] nofun rfl
  rwa [String.ofList_nil, String.append_empty] at hread

/-- A written document that ends its line. -/
theorem parse?_render_line {j : Json} (h : Readable j) : parse? (j.render ++ "\n") = some j := by
  refine parse?_of_render h ['\n'] ?_ rfl
  rintro c ⟨⟩
  decide

end Courier.Json
