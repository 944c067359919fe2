import Courier.Text.Base64
import Courier.Text.Utf8
import Mathlib.Tactic.Common

/-! Bytes written in base 64 and texts written in UTF-8 are read back as they were. -/
namespace Courier

theorem uint8_ofNat_eq {n : ℕ} {a : UInt8} (h : n % 256 = a.toNat) : UInt8.ofNat n = a :=
  UInt8.toNat_inj.mp (UInt8.toNat_ofNat'.trans h)

namespace Base64

theorem value?_symbol : ∀ n < 64, value? (symbol n) = some n := by decide +kernel

theorem symbol_ne : ∀ n < 64, symbol n ≠ '=' ∧ symbol n ≠ '\n' ∧ symbol n ≠ '\r' := by decide +kernel

theorem decodeChars_encodeChars (bs : List UInt8) : decodeChars (encodeChars bs) = some bs := by
  fun_induction encodeChars bs with
  | case1 => rfl
  | case2 a n =>
    have hn : n = a.toNat * 16 := rfl
    have ha := a.toNat_lt
    rw [decodeChars, value?_symbol _ (by omega), value?_symbol _ (by omega)]
    change some [UInt8.ofNat ((n / 64 * 64 + n % 64) / 16)] = some [a]
    rw [uint8_ofNat_eq (a := a) (by omega)]
  | case3 a b n =>
    have hn : n = (a.toNat * 256 + b.toNat) * 4 := rfl
    have ha := a.toNat_lt
    have hb := b.toNat_lt
    have hc := (symbol_ne (n % 64) (by omega)).1
    rw [decodeChars, value?_symbol _ (by omega), value?_symbol _ (by omega), value?_symbol _ (by omega)]
    · change some [UInt8.ofNat (((n / 4096 * 64 + n / 64 % 64) * 64 + n % 64) / 4 / 256),
        UInt8.ofNat (((n / 4096 * 64 + n / 64 % 64) * 64 + n % 64) / 4)] = some [a, b]
      rw [uint8_ofNat_eq (a := a) (by omega), uint8_ofNat_eq (a := b) (by omega)]
    · exact hc
  | case4 a b c rest n ih =>
    have hn : n = (a.toNat * 256 + b.toNat) * 256 + c.toNat := rfl
    have ha := a.toNat_lt
    have hb := b.toNat_lt
    have hc := c.toNat_lt
    have hd := (symbol_ne (n % 64) (by omega)).1
    have hwhole : ((n / 262144 * 64 + n / 4096 % 64) * 64 + n / 64 % 64) * 64 + n % 64 = n := by omega
    rw [decodeChars, value?_symbol _ (by omega), value?_symbol _ (by omega), value?_symbol _ (by omega),
      value?_symbol _ (by omega), ih]
    · change some (UInt8.ofNat ((((n / 262144 * 64 + n / 4096 % 64) * 64 + n / 64 % 64) * 64 + n % 64) /
        65536) :: UInt8.ofNat ((((n / 262144 * 64 + n / 4096 % 64) * 64 + n / 64 % 64) * 64 + n % 64) /
        256) :: UInt8.ofNat (((n / 262144 * 64 + n / 4096 % 64) * 64 + n / 64 % 64) * 64 + n % 64) ::
        rest) = _
      rw [hwhole, uint8_ofNat_eq (a := a) (by omega), uint8_ofNat_eq (a := b) (by omega),
        uint8_ofNat_eq (a := c) (by omega)]
    · exact fun _ h => absurd h hd
    · exact fun h => absurd h hd

theorem mem_encodeChars (bs : List UInt8) : ∀ c ∈ encodeChars bs, c ≠ '\n' ∧ c ≠ '\r' := by
  have hequals : '=' ≠ '\n' ∧ '=' ≠ '\r' := by decide
  have hsymbol (n : ℕ) (hn : n < 64) := (symbol_ne n hn).2
  fun_induction encodeChars bs with
  | case1 => exact nofun
  | case2 a n =>
    have hn : n = a.toNat * 16 := rfl
    have ha := a.toNat_lt
    simp only [List.forall_mem_cons]
    exact ⟨hsymbol _ (by omega), hsymbol _ (by omega), hequals, hequals, nofun⟩
  | case3 a b n =>
    have hn : n = (a.toNat * 256 + b.toNat) * 4 := rfl
    have ha := a.toNat_lt
    have hb := b.toNat_lt
    simp only [List.forall_mem_cons]
    exact ⟨hsymbol _ (by omega), hsymbol _ (by omega), hsymbol _ (by omega), hequals, nofun⟩
  | case4 a b c rest n ih =>
    have hn : n = (a.toNat * 256 + b.toNat) * 256 + c.toNat := rfl
    have ha := a.toNat_lt
    have hb := b.toNat_lt
    have hc := c.toNat_lt
    simp only [List.forall_mem_cons]
    exact ⟨hsymbol _ (by omega), hsymbol _ (by omega), hsymbol _ (by omega), hsymbol _ (by omega), ih⟩

theorem decode?_encode (bs : List UInt8) : decode? (encode bs) = some bs := by
  rw [decode?, encode, String.toList_ofList, List.filter_eq_self.mpr, decodeChars_encodeChars]
  intro c hc
  simpa using mem_encodeChars bs c hc

end Base64

namespace Text

theorem utf8Bytes_ofList (cs : List Char) :
    utf8Bytes (String.ofList cs) = cs.flatMap String.utf8EncodeChar := by
  rw [utf8Bytes, String.toUTF8_eq_toByteArray, String.toByteArray_ofList]
  exact List.toList_data_toByteArray

section Bytes

variable {a b c d : UInt8} {n x y z : ℕ} (rest : List UInt8)

theorem isContinuation_of (hb : b.toNat = x + 0x80) (hx : x < 64) : isContinuation b = true := by
  rw [isContinuation, Bool.and_eq_true, decide_eq_true_iff, decide_eq_true_iff]
  omega

theorem utf8Char?_one (ha : a.toNat = n) (hn : n < 0x80) :
    utf8Char? (a :: rest) = some (Char.ofNat n, 1) := by
  rw [utf8Char?.eq_def]
  dsimp only
  rw [if_pos (by omega), ha]

theorem utf8Char?_two (ha : a.toNat = n + 0xc0) (hn : 2 ≤ n ∧ n < 32) (hb : b.toNat = x + 0x80)
    (hx : x < 64) : utf8Char? (a :: b :: rest) = some (Char.ofNat (n * 64 + x), 2) := by
  have hvalue : a.toNat % 32 * 64 + b.toNat % 64 = n * 64 + x := by omega
  rw [utf8Char?.eq_def]
  dsimp only
  rw [if_neg (by omega), if_pos ⟨by omega, by omega, isContinuation_of hb hx⟩, hvalue]

theorem utf8Char?_three (ha : a.toNat = n + 0xe0) (hn : n < 16) (hb : b.toNat = x + 0x80) (hx : x < 64)
    (hc : c.toNat = y + 0x80) (hy : y < 64) (hlow : 0x800 ≤ (n * 64 + x) * 64 + y)
    (hhigh : (n * 64 + x) * 64 + y < 0xd800 ∨ 0xdfff < (n * 64 + x) * 64 + y) :
    utf8Char? (a :: b :: c :: rest) = some (Char.ofNat ((n * 64 + x) * 64 + y), 3) := by
  have hvalue : (a.toNat % 16 * 64 + b.toNat % 64) * 64 + c.toNat % 64 = (n * 64 + x) * 64 + y := by omega
  rw [utf8Char?.eq_def]
  dsimp only
  rw [if_neg (by omega), if_neg (by omega), hvalue, if_pos ⟨by omega, by omega, isContinuation_of hb hx,
    isContinuation_of hc hy, hlow, hhigh⟩]

theorem utf8Char?_four (ha : a.toNat = n + 0xf0) (hn : n < 5) (hb : b.toNat = x + 0x80) (hx : x < 64)
    (hc : c.toNat = y + 0x80) (hy : y < 64) (hd : d.toNat = z + 0x80) (hz : z < 64)
    (hlow : 0x10000 ≤ ((n * 64 + x) * 64 + y) * 64 + z)
    (hhigh : ((n * 64 + x) * 64 + y) * 64 + z < 0x110000) :
    utf8Char? (a :: b :: c :: d :: rest) =
      some (Char.ofNat (((n * 64 + x) * 64 + y) * 64 + z), 4) := by
  have hvalue : ((a.toNat % 8 * 64 + b.toNat % 64) * 64 + c.toNat % 64) * 64 + d.toNat % 64 =
    ((n * 64 + x) * 64 + y) * 64 + z := by omega
  rw [utf8Char?.eq_def]
  dsimp only
  rw [if_neg (by omega), if_neg (by omega), if_neg (by omega), hvalue, if_pos ⟨by omega, by omega,
    isContinuation_of hb hx, isContinuation_of hc hy, isContinuation_of hd hz, hlow, hhigh⟩]

end Bytes

theorem utf8Char?_utf8EncodeChar (c : Char) (rest : List UInt8) :
    utf8Char? (String.utf8EncodeChar c ++ rest) = some (c, (String.utf8EncodeChar c).length) := by
  have hvalid : c.val.toNat < 0xd800 ∨ 0xdfff < c.val.toNat ∧ c.val.toNat < 0x110000 := c.valid
  have hc {n : ℕ} (h : n = c.val.toNat) : Char.ofNat n = c := h ▸ Char.ofNat_toNat c
  have hbyte {n : ℕ} (h : n < 256) : (UInt8.ofNat n).toNat = n := UInt8.toNat_ofNat_of_lt' h
  rw [String.utf8EncodeChar]
  -- one, two, three or four bytes
  split_ifs
  · exact (utf8Char?_one rest (hbyte (by omega)) (by omega)).trans (by rw [hc rfl]; rfl)
  · exact (utf8Char?_two rest (hbyte (by omega)) (by omega) (hbyte (by omega)) (by omega)).trans
      (by rw [hc (by omega)]; rfl)
  · exact (utf8Char?_three rest (hbyte (by omega)) (by omega) (hbyte (by omega)) (by omega)
      (hbyte (by omega)) (by omega) (by omega) (by omega)).trans (by rw [hc (by omega)]; rfl)
  · exact (utf8Char?_four rest (hbyte (by omega)) (by omega) (hbyte (by omega)) (by omega)
      (hbyte (by omega)) (by omega) (hbyte (by omega)) (by omega) (by omega) (by omega)).trans
      (by rw [hc (by omega)]; rfl)

theorem utf8EncodeChar_ne_nil (c : Char) : String.utf8EncodeChar c ≠ [] := by
  rw [String.utf8EncodeChar]
  split_ifs <;> exact nofun

theorem utf8Chars_flatMap (cs : List Char) :
    ∀ fuel, (cs.flatMap String.utf8EncodeChar).length ≤ fuel →
      utf8Chars fuel (cs.flatMap String.utf8EncodeChar) = cs := by
  induction cs with
  | nil =>
    rintro (_ | fuel) -
    · rfl
    · rfl
  | cons c cs ih =>
    intro fuel hfuel
    have hpos := List.length_pos_iff.mpr (utf8EncodeChar_ne_nil c)
    rw [List.flatMap_cons, List.length_append] at hfuel
    obtain ⟨fuel, rfl⟩ := Nat.exists_eq_add_one_of_ne_zero (by omega : fuel ≠ 0)
    rw [List.flatMap_cons, utf8Chars, utf8Char?_utf8EncodeChar]
    · change c :: utf8Chars fuel (List.drop _ _) = _
      rw [List.drop_left, ih _ (by omega)]
    · intro hnil
      exact utf8EncodeChar_ne_nil c (List.append_eq_nil_iff.mp hnil).1

theorem ofUtf8_utf8Bytes (s : String) : ofUtf8 (utf8Bytes s) = s := by
  rw [← String.ofList_toList (s := s), utf8Bytes_ofList, ofUtf8, utf8Chars_flatMap _ _ (Nat.le_refl _)]

theorem utf8Bytes_append (s t : String) : utf8Bytes (s ++ t) = utf8Bytes s ++ utf8Bytes t := by
  rw [← String.ofList_toList (s := s), ← String.ofList_toList (s := t), ← String.ofList_append,
    utf8Bytes_ofList, utf8Bytes_ofList, utf8Bytes_ofList, List.flatMap_append]

theorem toNat_ofNat : ∀ n < 0x80, (Char.ofNat n).toNat = n := by decide +kernel

/-- A character of one byte. -/
theorem utf8EncodeChar_ofNat : ∀ n < 0x80, String.utf8EncodeChar (Char.ofNat n) = [UInt8.ofNat n] := by
  decide +kernel

theorem utf8Bytes_eq (s : String) : utf8Bytes s = s.toList.flatMap String.utf8EncodeChar := by
  rw [← utf8Bytes_ofList, String.ofList_toList]

theorem utf8Bytes_injective {s t : String} (h : utf8Bytes s = utf8Bytes t) : s = t := by
  rw [← ofUtf8_utf8Bytes s, h, ofUtf8_utf8Bytes]

/-- A byte below the others is a character of its own. -/
theorem mem_utf8EncodeChar {c : Char} {b : UInt8} (hb : b.toNat < 0x80)
    (h : b ∈ String.utf8EncodeChar c) : c.toNat = b.toNat := by
  have hbyte {n : ℕ} (hn : n < 256) (hmem : b = UInt8.ofNat n) : b.toNat = n :=
    hmem ▸ UInt8.toNat_ofNat_of_lt' hn
  have hvalid : c.val.toNat < 0xd800 ∨ 0xdfff < c.val.toNat ∧ c.val.toNat < 0x110000 := c.valid
  change c.val.toNat = _
  rw [String.utf8EncodeChar] at h
  -- one, two, three or four bytes
  split_ifs at h <;> simp only [List.mem_cons, List.not_mem_nil, or_false] at h
  · have := hbyte (by omega) h
    omega
  · rcases h with h | h <;> have := hbyte (by omega) h <;> omega
  · rcases h with h | h | h <;> have := hbyte (by omega) h <;> omega
  · rcases h with h | h | h | h <;> have := hbyte (by omega) h <;> omega

theorem utf8Bytes_singleton {b : UInt8} (h : b.toNat < 0x80) :
    utf8Bytes (String.ofList [Char.ofNat b.toNat]) = [b] := by
  rw [utf8Bytes_ofList, List.flatMap_singleton, utf8EncodeChar_ofNat _ h, UInt8.ofNat_toNat]

end Text
end Courier
