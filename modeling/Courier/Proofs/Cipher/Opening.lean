import Courier.Cipher.Gcm
import Mathlib.Tactic.Common

/-! A sealed text opens under the key that sealed it. The block cipher enters only through the length of
its blocks: combining with the same key stream twice gives the text back as soon as no block of the stream
is short, and that rests on the lengths of the round keys. -/
namespace Courier

namespace Aes

theorem length_xor {a b : Bytes} {n : ℕ} (ha : a.length = n) (hb : b.length = n) :
    (xor a b).length = n := by
  rw [xor, List.length_zipWith, ha, hb, Nat.min_self]

theorem length_mixColumns (b : Bytes) (hb : 4 ∣ b.length) : (mixColumns b).length = b.length := by
  fun_induction mixColumns b with
  | case1 a b c d rest ih =>
    have hrest : 4 ∣ rest.length := by
      simp only [List.length_cons] at hb
      omega
    simp only [List.length_cons, ih hrest]
  | case2 b hshort =>
    rcases b with _ | ⟨a, _ | ⟨b, _ | ⟨c, _ | ⟨d, rest⟩⟩⟩⟩
    · rfl
    all_goals simp only [List.length_cons, List.length_nil] at hb
    · omega
    · omega
    · omega
    · exact absurd rfl (hshort a b c d rest)

theorem length_shiftRows (b : Bytes) : (shiftRows b).length = 16 := by
  rw [shiftRows, List.length_map, List.length_range]

theorem length_rounds {keys : List Bytes} (hkeys : ∀ k ∈ keys, k.length = 16) :
    ∀ {b : Bytes}, b.length = 16 → (rounds keys b).length = 16 := by
  intro b
  fun_induction rounds keys b with
  | case1 b => exact id
  | case2 k b => exact fun _ => length_xor (length_shiftRows _) (hkeys k List.mem_cons_self)
  | case3 b k ks _ ih =>
    obtain ⟨hk, hks⟩ := List.forall_mem_cons.mp hkeys
    have hmixed : (mixColumns (shiftRows (b.map substitute))).length = 16 := by
      rw [length_mixColumns _ (by rw [length_shiftRows]; decide), length_shiftRows]
    exact fun _ => ih hks (length_xor hmixed hk)

theorem length_encryptWith {keys : List Bytes} (hkeys : ∀ k ∈ keys, k.length = 16) {b : Bytes}
    (hb : b.length = 16) : (encryptWith keys b).length = 16 := by
  cases keys with
  | nil => exact hb
  | cons k ks =>
    obtain ⟨hk, hks⟩ := List.forall_mem_cons.mp hkeys
    exact length_rounds hks (length_xor hb hk)

theorem length_nextWord {size : ℕ} {words : List Bytes} (hsize : 0 < size) (hlength : size ≤ words.length)
    (hwords : ∀ w ∈ words, w.length = 4) : (nextWord size words).length = 4 := by
  have hold : (words.getD (size - 1) []).length = 4 := by
    rw [List.getD_eq_getElem?_getD, List.getElem?_eq_getElem (by omega : size - 1 < words.length)]
    exact hwords _ (List.getElem_mem _)
  have hlast : (words.headD []).length = 4 := by
    cases words with
    | nil => exact absurd (Nat.lt_of_lt_of_le hsize hlength) (Nat.lt_irrefl 0)
    | cons w ws => exact hwords w List.mem_cons_self
  rw [nextWord]
  apply length_xor hold
  split_ifs
  · refine length_xor ?_ rfl
    rw [List.length_map, List.length_append, List.length_drop, List.length_take, hlast]
    rfl
  · rw [List.length_map, hlast]
  · exact hlast

theorem extend_spec {size : ℕ} (hsize : 0 < size) (n : ℕ) (words : List Bytes)
    (hlength : size ≤ words.length) (hwords : ∀ w ∈ words, w.length = 4) :
    (extend size n words).length = n + words.length ∧ ∀ w ∈ extend size n words, w.length = 4 := by
  induction n generalizing words with
  | zero => exact ⟨(Nat.zero_add _).symm, hwords⟩
  | succ n ih =>
    have hnext := length_nextWord hsize hlength hwords
    obtain ⟨hcount, hall⟩ := ih (nextWord size words :: words)
      (by rw [List.length_cons]; omega) (List.forall_mem_cons.mpr ⟨hnext, hwords⟩)
    refine ⟨?_, hall⟩
    rw [extend, hcount, List.length_cons]
    omega

theorem words_spec (key : Bytes) : (words key).length = key.length / 4 ∧ ∀ w ∈ words key, w.length = 4 := by
  fun_induction words key with
  | case1 a b c d rest ih =>
    refine ⟨?_, List.forall_mem_cons.mpr ⟨rfl, ih.2⟩⟩
    simp only [List.length_cons, ih.1]
    omega
  | case2 key hshort =>
    refine ⟨?_, nofun⟩
    rcases key with _ | ⟨a, _ | ⟨b, _ | ⟨c, _ | ⟨d, rest⟩⟩⟩⟩
    · rfl
    · simp
    · simp
    · simp
    · exact absurd rfl (hshort a b c d rest)

theorem length_flatten {ws : List Bytes} (h : ∀ w ∈ ws, w.length = 4) : ws.flatten.length = 4 * ws.length := by
  induction ws with
  | nil => rfl
  | cons w ws ih =>
    obtain ⟨hw, hws⟩ := List.forall_mem_cons.mp h
    rw [List.flatten_cons, List.length_append, hw, ih hws, List.length_cons]
    omega

theorem length_roundKeys {key : Bytes} (hkey : 4 ≤ key.length) : ∀ k ∈ roundKeys key, k.length = 16 := by
  obtain ⟨hcount, hwords⟩ := words_spec key
  obtain ⟨hcount', hwords'⟩ := extend_spec (by omega : 0 < key.length / 4)
    (4 * (key.length / 4 + 7) - key.length / 4) (words key).reverse
    (Nat.le_of_eq (by rw [List.length_reverse, hcount])) (by simpa using hwords)
  rw [List.length_reverse, hcount] at hcount'
  intro k hk
  obtain ⟨r, hr, rfl⟩ := List.mem_map.mp hk
  rw [List.mem_range] at hr
  rw [length_flatten, List.length_take, List.length_drop, List.length_reverse, hcount']
  · omega
  · intro w hw
    exact hwords' w (List.mem_reverse.mp (List.mem_of_mem_drop (List.mem_of_mem_take hw)))

end Aes

namespace Gcm

theorem length_toBytes (len n : ℕ) : (toBytes len n).length = len := by
  induction len generalizing n with
  | zero => rfl
  | succ len ih => rw [toBytes, List.length_append, ih, List.length_singleton]

theorem zipWith_xor_twice {text stream : Bytes} (h : text.length ≤ stream.length) :
    List.zipWith (· ^^^ ·) (List.zipWith (· ^^^ ·) text stream) stream = text := by
  induction text generalizing stream with
  | nil => rfl
  | cons t text ih =>
    cases stream with
    | nil => cases h
    | cons s stream =>
      rw [List.zipWith_cons_cons, List.zipWith_cons_cons, ih (Nat.le_of_succ_le_succ h), UInt8.xor_assoc,
        UInt8.xor_self, UInt8.xor_zero]

/-- A block cipher that takes blocks to blocks. -/
def KeepsBlocks (e : BlockCipher) : Prop := ∀ b : Bytes, b.length = 16 → (e b).length = 16

variable {e : BlockCipher} {nonce : Bytes}

theorem length_streamBlock (he : KeepsBlocks e) (hnonce : nonce.length = 12) (n : ℕ) :
    (streamBlock e nonce n).length = 16 := by
  apply he
  rw [List.length_append, hnonce, length_toBytes]

/-- A block at the front, full unless it is the last, is combined on its own. -/
theorem combine_append {head tail : Bytes} (hne : head ≠ []) (hle : head.length ≤ 16)
    (htail : head.length = 16 ∨ tail = []) (fuel n : ℕ) :
    combine e nonce (fuel + 1) n (head ++ tail) =
      List.zipWith (· ^^^ ·) head (streamBlock e nonce n) ++ combine e nonce fuel (n + 1) tail := by
  have htake : (head ++ tail).take 16 = head := by
    rcases htail with hfull | rfl
    · exact List.take_left' hfull
    · rw [List.append_nil, List.take_of_length_le hle]
  have hdrop : (head ++ tail).drop 16 = tail := by
    rcases htail with hfull | rfl
    · exact List.drop_left' hfull
    · rw [List.append_nil, List.drop_of_length_le hle]
  rw [combine, if_neg (by simp [hne]), htake, hdrop]

theorem combine_nil (fuel n : ℕ) : combine e nonce fuel n [] = [] := by
  cases fuel <;> rfl

theorem combine_spec (he : KeepsBlocks e) (hnonce : nonce.length = 12) {fuel : ℕ} (n : ℕ) {text : Bytes}
    (hfuel : text.length < fuel) : (combine e nonce fuel n text).length = text.length ∧
      combine e nonce fuel n (combine e nonce fuel n text) = text := by
  induction fuel generalizing n text with
  | zero => cases hfuel
  | succ fuel ih =>
    by_cases hempty : text = []
    · subst hempty
      exact ⟨rfl, rfl⟩
    have hpos := List.length_pos_iff.mpr hempty
    have hrest : (text.drop 16).length < fuel := by
      rw [List.length_drop]
      omega
    obtain ⟨hlength, htwice⟩ := ih (n + 1) hrest
    have hstream := length_streamBlock he hnonce n
    have hhead : (text.take 16).length = min 16 text.length := List.length_take
    have hcovered : (List.zipWith (· ^^^ ·) (text.take 16) (streamBlock e nonce n)).length =
        (text.take 16).length := by
      rw [List.length_zipWith, hstream]
      omega
    have hsplit : combine e nonce (fuel + 1) n text =
        List.zipWith (· ^^^ ·) (text.take 16) (streamBlock e nonce n) ++
          combine e nonce fuel (n + 1) (text.drop 16) := by
      rw [combine, if_neg (by simp [hempty])]
    refine ⟨?_, ?_⟩
    · rw [hsplit, List.length_append, hcovered, hlength, ← List.length_append, List.take_append_drop]
    · -- the covered text is cut into the same blocks: the first is full, or nothing comes behind it
      have hshort : (text.take 16).length = 16 ∨ combine e nonce fuel (n + 1) (text.drop 16) = [] := by
        by_cases hfull : 16 ≤ text.length
        · exact .inl (by omega)
        · rw [List.drop_of_length_le (by omega), combine_nil]
          exact .inr rfl
      rw [hsplit, combine_append (List.ne_nil_of_length_pos (by omega)) (by omega) (by rwa [hcovered]),
        zipWith_xor_twice (by omega), htwice, List.take_append_drop]

theorem length_cover (he : KeepsBlocks e) (hnonce : nonce.length = 12) (text : Bytes) :
    (cover e nonce text).length = text.length := (combine_spec he hnonce 2 (Nat.lt_succ_self _)).1

theorem cover_cover (he : KeepsBlocks e) (hnonce : nonce.length = 12) (text : Bytes) :
    cover e nonce (cover e nonce text) = text := by
  rw [cover, length_cover he hnonce]
  exact (combine_spec he hnonce 2 (Nat.lt_succ_self _)).2

theorem length_tag (he : KeepsBlocks e) (hnonce : nonce.length = 12) (text : Bytes) :
    (tag e nonce text).length = 16 := by
  rw [tag, List.length_zipWith, length_toBytes, length_streamBlock he hnonce, Nat.min_self]

theorem decrypt?_encrypt (he : KeepsBlocks e) (hnonce : nonce.length = 12) (text : Bytes) :
    decrypt? e (encrypt e nonce text) = some text := by
  have hcover := length_cover he hnonce text
  have htag := length_tag he hnonce (cover e nonce text)
  have hlength : (encrypt e nonce text).length = 28 + text.length := by
    rw [encrypt, List.length_append, List.length_append, hnonce, hcover, htag]
    omega
  have htake : (encrypt e nonce text).take 12 = nonce := by
    rw [encrypt, List.append_assoc, List.take_left' hnonce]
  have hmiddle : ((encrypt e nonce text).drop 12).take (28 + text.length - 28) = cover e nonce text := by
    rw [encrypt, List.append_assoc, List.drop_left' hnonce, List.take_left' (by omega)]
  have hend : (encrypt e nonce text).drop (28 + text.length - 16) = tag e nonce (cover e nonce text) := by
    rw [encrypt, List.drop_left' (by rw [List.length_append, hnonce, hcover]; omega)]
  rw [decrypt?, if_neg (by omega), hlength]
  dsimp only
  rw [htake, hmiddle, hend, if_pos rfl, cover_cover he hnonce]

end Gcm
end Courier
