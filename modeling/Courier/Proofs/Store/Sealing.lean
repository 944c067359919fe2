import Courier.Proofs.Cipher.Opening
import Courier.Proofs.Store.Redis
import Courier.Proofs.Text.Coding
import Courier.Store.Depot

/-! Sealing over a store that keeps results. However often the keys were changed, the last result saved
under a message id is there for everyone who has the key it was sealed with, and for nobody else. -/
namespace Courier

/-- The key that sealed a text opens it. -/
theorem Cipher.aesGcm_opens {key nonce : List UInt8} (hkey : key.length = 32) (hnonce : nonce.length = 12)
    (text : List UInt8) : aesGcm.decrypt? key (aesGcm.encrypt key nonce text) = some text := by
  have hblocks : Gcm.KeepsBlocks (Aes.encryptWith (Aes.roundKeys key)) := fun b hb =>
    Aes.length_encryptWith (Aes.length_roundKeys (by omega)) hb
  have haccepts : Aes.acceptsKey key = true := by simp [Aes.acceptsKey, hkey]
  change (if Aes.acceptsKey key = true then _ else none) = _
  rw [if_pos haccepts]
  exact Gcm.decrypt?_encrypt hblocks hnonce text

namespace Sealing

variable {c : Cipher} {sealed key text : List UInt8} {ks : List (List UInt8)}

theorem openWith_eq_none (h : ∀ k ∈ ks, c.decrypt? k sealed = none) : openWith c sealed ks = none := by
  induction ks with
  | nil => rfl
  | cons k ks ih =>
    obtain ⟨hk, hks⟩ := List.forall_mem_cons.mp h
    rw [openWith, hk]
    exact ih hks

theorem openWith_eq_some (hkey : key ∈ ks) (hopens : c.decrypt? key sealed = some text)
    (hother : ∀ k ∈ ks, k ≠ key → c.decrypt? k sealed = none) : openWith c sealed ks = some text := by
  induction ks with
  | nil => cases hkey
  | cons k ks ih =>
    obtain ⟨hk, hks⟩ := List.forall_mem_cons.mp hother
    rw [openWith]
    -- keys in front of the right one are tried in vain
    by_cases heq : k = key
    · rw [heq, hopens]
    · rw [hk heq]
      exact ih ((List.mem_cons.mp hkey).resolve_left (Ne.symm heq)) hks

/-- The text of a result under a key and a nonce. -/
def sealedText (key nonce : List UInt8) (t : String) : List UInt8 :=
  Cipher.aesGcm.encrypt key nonce (Text.utf8Bytes t)

/-- What is known of an entry of a store: that it was sealed, with which key and nonce, or that it was
saved as it is. -/
inductive Entry
  | sealed (key nonce : List UInt8) (r : Result)
  | plain (r : Result)

/-- Something done to a store: through a layer with some keys, or without one. -/
inductive Event
  | save (keys : Keys) (r : Result)
  | plain (r : Result)
  | delete (keys : Keys) (id : String)

variable {σ : Type} (draw : σ → List UInt8 × σ) (next : ResultStore σ)

/-- What an event does to the store, and to the account of the last entry under each message id, which
only a save without a fault enters. -/
def Event.run (x : σ × Keyed Entry) : Event → σ × Keyed Entry
  | .save keys r =>
    match (layer Cipher.aesGcm draw keys next).save r x.1 with
    | (s, none) => (s, Keyed.insert r.messageId (.sealed keys.active (draw x.1).1 r) x.2)
    | (s, some _) => (s, x.2)
  | .plain r =>
    match next.save r x.1 with
    | (s, none) => (s, Keyed.insert r.messageId (.plain r) x.2)
    | (s, some _) => (s, x.2)
  | .delete keys id => (((layer Cipher.aesGcm draw keys next).delete id x.1).1, Keyed.erase id x.2)

/-- What a layer with some keys must answer when the last entry is known. -/
def Answers (Shows : Result → Result → Prop) (keys : Keys) : Option Entry → Except Fault Result → Prop
  | none, answer => answer = .error resultNotFound
  | some (.sealed key _ r), answer =>
    if key ∈ keys.active :: keys.fallback then ∃ r', answer = .ok r' ∧ r.ComesBackAs r'
    else answer = .error ⟨OpenError.keys.message, []⟩
  | some (.plain r), answer =>
    (∀ r' t, Shows r r' → Keyed.get? (r'.bindings.getD []) envelopeKey ≠ some (.text t)) →
      answer = .error ⟨OpenError.noEnvelope.message, []⟩

/-- The results of an event are well made, and the key that seals is for the cipher. -/
def Event.Fits : Event → Prop
  | .save keys r => keys.active.length = 32 ∧ r.Valid
  | .plain r => r.Valid
  | .delete _ _ => True

/-- What stands in the store for an entry. -/
inductive Stands : Entry → Result → Prop
  | sealed {key nonce : List UInt8} {r : Result} {t : String} (hkey : key.length = 32)
      (hnonce : nonce.length = 12) (hr : r.Valid) (ht : r.encode = .ok t) :
      Stands (.sealed key nonce r) (envelope r (Base64.encode (sealedText key nonce t)))
  | plain (r : Result) : Stands (.plain r) r

/-- A store that can stand behind layers: it keeps results and gives back envelopes with their sealed
text, and nonces can be drawn from its states. -/
structure Backs (Holds : MemoryStore → σ → Prop) (Accepts : Result → Prop)
    (Shows : Result → Result → Prop) : Prop where
  keeps : next.Keeps Holds Accepts Shows
  shows : ∀ {r sealed r'}, Shows (envelope r sealed) r' →
    Keyed.get? (r'.bindings.getD []) envelopeKey = some (.text sealed)
  holds : ∀ {m s}, Holds m s → Holds m (draw s).2
  nonce : ∀ s, (draw s).1.length = 12

variable {draw next} {keys : Keys} {r : Result}

theorem layer_save_ok {t : String} (ht : r.encode = .ok t) (s : σ) :
    (layer Cipher.aesGcm draw keys next).save r s =
      next.save (envelope r (Base64.encode (sealedText keys.active (draw s).1 t))) (draw s).2 := by
  rw [layer]
  dsimp only
  rw [sealResult, ht]
  rfl

theorem layer_save_error {e : Json.EncodeError} (he : r.encode = .error e) (s : σ) :
    (layer Cipher.aesGcm draw keys next).save r s =
      (s, some ⟨"failed to marshal result: " ++ e.message, []⟩) := by
  rw [layer]
  dsimp only
  rw [sealResult, he]
  rfl

theorem layer_load (keys : Keys) (id : String) (s : σ) :
    ((layer Cipher.aesGcm draw keys next).load id s).2 =
      (next.load id s).2.bind fun r =>
        (openResult Cipher.aesGcm keys r).mapError fun e => ⟨e.message, []⟩ := by
  rw [layer]
  dsimp only
  obtain ⟨t, f | r⟩ := next.load id s
  · rfl
  · rfl

theorem openResult_plain (h : ∀ t, Keyed.get? (r.bindings.getD []) envelopeKey ≠ some (.text t)) :
    openResult Cipher.aesGcm keys r = .error .noEnvelope := by
  rw [openResult]
  split
  · next t ht => exact absurd ht (h t)
  · rfl

section Envelope

variable {sealed : List UInt8}
  (h : Keyed.get? (r.bindings.getD []) envelopeKey = some (.text (Base64.encode sealed)))
include h

theorem openResult_closed
    (hclosed : openWith Cipher.aesGcm sealed (keys.active :: keys.fallback) = none) :
    openResult Cipher.aesGcm keys r = .error .keys := by
  simp only [openResult, h, Base64.decode?_encode, hclosed]

theorem openResult_open {t : String} {r' : Result}
    (hopen : openWith Cipher.aesGcm sealed (keys.active :: keys.fallback) = some (Text.utf8Bytes t))
    (hread : Result.decode? t = some r') : openResult Cipher.aesGcm keys r = .ok r' := by
  simp only [openResult, h, Base64.decode?_encode, hopen, Text.ofUtf8_utf8Bytes, hread]

end Envelope

theorem valid_envelope (h : r.Valid) (sealed : String) : (envelope r sealed).Valid where
  value := .null
  bindings_sorted := List.pairwise_singleton _ _
  bindings_valid := List.forall_mem_singleton.mpr (.text sealed)
  steps := h.steps
  nodeId := nofun
  nanos := h.nanos
  duration := h.duration

section History

variable {Holds : MemoryStore → σ → Prop} {Accepts : Result → Prop} {Shows : Result → Result → Prop}

/-- The store holds what the account says. -/
def Sound (Holds : MemoryStore → σ → Prop) (x : σ × Keyed Entry) : Prop :=
  ∃ m, Holds m x.1 ∧ Keyed.Related Stands x.2 m

theorem Sound.save (hb : Backs draw next Holds Accepts Shows) {m : MemoryStore} {s : σ} (hm : Holds m s)
    {account : Keyed Entry} (hrelated : Keyed.Related Stands account m) {entry : Entry} {kept : Result}
    (hvalid : kept.Valid) (hstands : Stands entry kept) :
    Sound Holds (match next.save kept s with
      | (s, none) => (s, Keyed.insert kept.messageId entry account)
      | (s, some _) => (s, account)) := by
  -- a fault tells that the store has refused the result, and then it holds what it held
  by_cases haccepts : Accepts kept
  · obtain ⟨hfault, hholds⟩ := hb.keeps.save hm hvalid haccepts
    generalize next.save kept s = saved at hfault hholds
    obtain ⟨s', fault⟩ := saved
    cases hfault
    exact ⟨_, hholds, hrelated.insert _ hstands⟩
  · obtain ⟨⟨f, hfault⟩, hholds⟩ := hb.keeps.refuse hm haccepts
    generalize next.save kept s = saved at hfault hholds
    obtain ⟨s', fault⟩ := saved
    cases hfault
    exact ⟨m, hholds, hrelated⟩

theorem Sound.run (hb : Backs draw next Holds Accepts Shows) {x : σ × Keyed Entry} (hx : Sound Holds x)
    {e : Event} (he : e.Fits) : Sound Holds (e.run draw next x) := by
  obtain ⟨m, hm, hrelated⟩ := hx
  cases e with
  | save keys r =>
    obtain ⟨hkey, hr⟩ := he
    rw [Event.run]
    cases ht : r.encode with
    | error e =>
      -- no document: the store never sees the result
      rw [layer_save_error ht]
      exact ⟨m, hm, hrelated⟩
    | ok t =>
      rw [layer_save_ok ht]
      exact Sound.save hb (hb.holds hm) hrelated (valid_envelope hr _) (.sealed hkey (hb.nonce x.1) hr ht)
  | plain r => exact Sound.save hb hm hrelated he (.plain r)
  | delete keys id => exact ⟨_, (hb.keeps.delete hm id).2, hrelated.erase id⟩

theorem Sound.foldl (hb : Backs draw next Holds Accepts Shows) {events : List Event}
    (hevents : ∀ e ∈ events, e.Fits) {x : σ × Keyed Entry} (hx : Sound Holds x) :
    Sound Holds (events.foldl (Event.run draw next) x) := by
  induction events generalizing x with
  | nil => exact hx
  | cons e events ih =>
    obtain ⟨he, hrest⟩ := List.forall_mem_cons.mp hevents
    exact ih hrest (hx.run hb he)

/-- No other key that the cipher takes opens what was sealed. -/
def Entry.Exclusive (ks : List (List UInt8)) : Entry → Prop
  | .sealed key nonce r => ∀ t, r.encode = .ok t → ∀ k ∈ ks, k ≠ key → Aes.acceptsKey k = true →
    Cipher.aesGcm.decrypt? k (sealedText key nonce t) = none
  | .plain _ => True

theorem Stands.answers (hb : Backs draw next Holds Accepts Shows) {entry : Entry} {kept shown : Result}
    (hstands : Stands entry kept) (hshows : Shows kept shown)
    (hexclusive : entry.Exclusive (keys.active :: keys.fallback)) :
    Answers Shows keys (some entry)
      ((openResult Cipher.aesGcm keys shown).mapError fun e => ⟨e.message, []⟩) := by
  cases hstands with
  | plain r =>
    intro hplain
    rw [openResult_plain fun t => hplain shown t hshows]
    rfl
  | @sealed key nonce r t hkey hnonce hr ht =>
    have hother : ∀ k ∈ keys.active :: keys.fallback, k ≠ key →
        Cipher.aesGcm.decrypt? k (sealedText key nonce t) = none := by
      intro k hk hne
      -- keys of any other length open nothing, whatever was sealed
      by_cases haccepts : Aes.acceptsKey k = true
      · exact hexclusive t ht k hk hne haccepts
      · exact if_neg haccepts
    rw [Answers]
    split_ifs with hmem
    · have hopens : Cipher.aesGcm.decrypt? key (sealedText key nonce t) = some (Text.utf8Bytes t) :=
        Cipher.aesGcm_opens hkey hnonce _
      refine ⟨r.carried, ?_, hr.comesBackAs ht⟩
      rw [openResult_open (hb.shows hshows) (openWith_eq_some hmem hopens hother)
        (Result.decode?_encode hr ht)]
      rfl
    · have hclosed := openWith_eq_none fun k hk => hother k hk fun heq => hmem (heq ▸ hk)
      rw [openResult_closed (hb.shows hshows) hclosed]
      rfl

theorem Sound.load (hb : Backs draw next Holds Accepts Shows) {x : σ × Keyed Entry} (hx : Sound Holds x)
    {id : String} (hexclusive : ∀ entry, Keyed.get? x.2 id = some entry →
      entry.Exclusive (keys.active :: keys.fallback)) :
    Answers Shows keys (Keyed.get? x.2 id) ((layer Cipher.aesGcm draw keys next).load id x.1).2 := by
  obtain ⟨m, hm, hrelated⟩ := hx
  have hentry := hrelated.get? id
  rw [layer_load]
  generalize hget : Keyed.get? x.2 id = entry? at hentry hexclusive ⊢
  generalize hid : Keyed.get? m id = kept? at hentry
  cases hentry with
  | none =>
    rw [hb.keeps.missing hm hid]
    rfl
  | some hstands =>
    obtain ⟨shown, hload, hshows⟩ := hb.keeps.found hm hid
    rw [hload]
    exact hstands.answers hb hshows (hexclusive _ rfl)

/-- After any history of saving and deleting, through layers with whatever keys, loading through a layer
gives the last result under a message id if the key that sealed it is among those of the layer, a
decryption fault if not, and a missing envelope for what was saved without a layer. All that the store
behind the layers gets of a result is an envelope, and nothing at all of one without a document. -/
theorem load_after_history (hb : Backs draw next Holds Accepts Shows) {events : List Event}
    (hevents : ∀ e ∈ events, e.Fits) {s s' : σ} {account : Keyed Entry} (hs : Holds [] s)
    (hrun : events.foldl (Event.run draw next) (s, []) = (s', account)) :
    (∀ keys id, (∀ entry, Keyed.get? account id = some entry →
        entry.Exclusive (keys.active :: keys.fallback)) →
      Answers Shows keys (Keyed.get? account id) ((layer Cipher.aesGcm draw keys next).load id s').2) ∧
    (∀ keys r s, (∃ t, r.encode = .ok t) → ∃ env sealed,
      (layer Cipher.aesGcm draw keys next).save r s = next.save env (draw s).2 ∧
      env.messageId = r.messageId ∧ env.program = r.program ∧ env.status = r.status ∧
      env.steps = r.steps ∧ env.completedAt = r.completedAt ∧ env.duration = r.duration ∧
      env.value = .null ∧ env.failure = none ∧ env.bindings = some [("__encrypted__", .text sealed)]) ∧
    ∀ keys r s, (∃ e, r.encode = .error e) →
      ∃ f, (layer Cipher.aesGcm draw keys next).save r s = (s, some f) := by
  have hsound : Sound Holds (s', account) := hrun ▸ Sound.foldl hb hevents ⟨[], hs, .nil⟩
  refine ⟨fun keys id hexclusive => hsound.load hb hexclusive, ?_, ?_⟩
  · rintro keys r s ⟨t, ht⟩
    exact ⟨_, _, layer_save_ok ht s, rfl, rfl, rfl, rfl, rfl, rfl, rfl, rfl, rfl⟩
  · rintro keys r s ⟨e, he⟩
    exact ⟨_, layer_save_error he s⟩

end History

theorem length_nonce (d : Depot) : d.nonce.1.length = 12 := Gcm.length_toBytes 12 d.draws

theorem backs_memoryStore :
    Backs Depot.nonce Depot.memoryStore (fun m d => m = d.memory) (fun _ => True) Eq where
  keeps := MemoryStore.keeps.focus fun _ _ => rfl
  shows := by
    rintro r sealed _ rfl
    rfl
  holds := id
  nonce := length_nonce

theorem backs_redisStore {c : RedisStore} (hc : c.ttl = 0) : Backs Depot.nonce (Depot.redisStore c)
    (fun m d => c.Holds m d.redis) Result.Storable Result.ComesBackAs where
  keeps := (RedisStore.keeps hc).focus fun _ _ => rfl
  shows := by
    rintro r sealed _ ⟨-, rfl⟩
    simp [Result.carried, envelope, Value.carriedFields, Value.carried, Keyed.get?]
  holds := id
  nonce := length_nonce

def oldKeys : Keys := ⟨List.replicate 32 1, []⟩

/-- Keys after a change that went wrong: the old key was not kept, and there is one of no use. -/
def newKeys : Keys := ⟨List.replicate 32 2, [[7]]⟩

/-- The new keys with the old one behind the one of no use. -/
def allKeys : Keys := ⟨List.replicate 32 2, [[7], List.replicate 32 1]⟩

def oldNote : Result := { RedisStore.note with messageId := "old" }

/-- Two notes are sealed with the old key, and one of them again with the new one; another is saved
without a layer. -/
def rotation : List Event :=
  [.save oldKeys oldNote, .save oldKeys RedisStore.note,
    .plain { RedisStore.note with messageId := "plain" }, .save newKeys RedisStore.note]

def rotated (next : ResultStore Depot) : Depot × Keyed Entry :=
  rotation.foldl (Event.run Depot.nonce next) ({}, [])

theorem rotation_fits : ∀ e ∈ rotation, e.Fits := by
  have hnote := RedisStore.note_valid
  have hrenamed (id : String) : { RedisStore.note with messageId := id }.Valid :=
    ⟨hnote.value, hnote.bindings_sorted, hnote.bindings_valid, hnote.steps, hnote.nodeId, hnote.nanos,
      hnote.duration⟩
  simp only [rotation, List.forall_mem_cons]
  exact ⟨⟨rfl, hrenamed "old"⟩, ⟨rfl, hnote⟩, hrenamed "plain", ⟨rfl, hnote⟩, List.forall_mem_nil _⟩

/-- The new key does not open what the old one has sealed. -/
theorem newKey_closed : oldNote.encode.map (fun t => Cipher.aesGcm.decrypt? newKeys.active
    (sealedText oldKeys.active (Gcm.toBytes 12 0) t)) = .ok none := by
  -- keys, nonce and text are all known, so the tags under both keys are computed and compared
  decide +kernel

theorem oldNote_exclusive {ks : List (List UInt8)}
    (hks : ∀ k ∈ ks, k = newKeys.active ∨ k = [7] ∨ k = oldKeys.active) :
    Entry.Exclusive ks (.sealed oldKeys.active (Gcm.toBytes 12 0) oldNote) := by
  intro t ht k hk hne haccepts
  obtain rfl | rfl | rfl := hks k hk
  · have hclosed := newKey_closed
    rw [ht] at hclosed
    exact Except.ok.inj hclosed
  · cases haccepts
  · exact absurd rfl hne

theorem load_after_history_rotation :
    let load (next : ResultStore Depot) (keys : Keys) (id : String) :=
      ((layer Cipher.aesGcm Depot.nonce keys next).load id (rotated next).1).2
    (∃ r', load Depot.memoryStore newKeys "index" = .ok r' ∧ RedisStore.note.ComesBackAs r') ∧
      (∃ r', load Depot.memoryStore allKeys "old" = .ok r' ∧ oldNote.ComesBackAs r') ∧
      load Depot.memoryStore newKeys "old" =
        .error ⟨"failed to decrypt result: decryption failed with all available keys", []⟩ ∧
      load Depot.memoryStore newKeys "plain" = .error ⟨"result is missing encrypted data envelope", []⟩ ∧
      load Depot.memoryStore newKeys "none" = .error resultNotFound ∧
      (∃ r', load (Depot.redisStore {}) newKeys "index" = .ok r' ∧ RedisStore.note.ComesBackAs r') ∧
      ∃ r', load (Depot.redisStore {}) allKeys "old" = .ok r' ∧ oldNote.ComesBackAs r' := by
  have hempty : RedisStore.Holds {} [] {} := ⟨rfl, by decide, .nil, fun _ => .none, rfl⟩
  have hrun (next : ResultStore Depot) : rotation.foldl (Event.run Depot.nonce next) ({}, []) =
      ((rotated next).1, (rotated next).2) := rfl
  have hmemory := (load_after_history backs_memoryStore rotation_fits rfl (hrun _)).1
  have hredis := (load_after_history (backs_redisStore rfl) rotation_fits hempty (hrun _)).1
  -- the cipher does not take the other key that the layer has
  have hnew (n : List UInt8) : Entry.Exclusive (newKeys.active :: newKeys.fallback)
      (.sealed newKeys.active n RedisStore.note) := by
    intro t _ k hk hne haccepts
    rcases List.mem_cons.mp hk with rfl | hk
    · exact absurd rfl hne
    · rw [List.mem_singleton.mp hk] at haccepts
      cases haccepts
  have hold : Entry.Exclusive (newKeys.active :: newKeys.fallback)
      (.sealed oldKeys.active (Gcm.toBytes 12 0) oldNote) := by
    apply oldNote_exclusive
    intro k hk
    rcases List.mem_cons.mp hk with rfl | hk
    · exact .inl rfl
    · exact .inr (.inl (List.mem_singleton.mp hk))
  have hall : Entry.Exclusive (allKeys.active :: allKeys.fallback)
      (.sealed oldKeys.active (Gcm.toBytes 12 0) oldNote) := by
    apply oldNote_exclusive
    intro k hk
    simpa [allKeys, newKeys, oldKeys] using hk
  have hopened {Shows : Result → Result → Prop} {keys : Keys} {key n : List UInt8} {r : Result}
      {answer : Except Fault Result} (hkey : key ∈ keys.active :: keys.fallback)
      (h : Answers Shows keys (some (.sealed key n r)) answer) :
      ∃ r', answer = .ok r' ∧ r.ComesBackAs r' := by
    rwa [Answers, if_pos hkey] at h
  -- the old key stands behind the useless one, or is not there at all
  have hbehind : oldKeys.active ∈ allKeys.active :: allKeys.fallback :=
    List.mem_cons_of_mem _ (List.mem_cons_of_mem _ List.mem_cons_self)
  have hlost : oldKeys.active ∉ newKeys.active :: newKeys.fallback := by decide
  refine ⟨?_, ?_, ?_, ?_, ?_, ?_, ?_⟩
  · exact hopened List.mem_cons_self
      (hmemory newKeys "index" fun _ hentry => Option.some.inj hentry ▸ hnew _)
  · exact hopened hbehind (hmemory allKeys "old" fun _ hentry => Option.some.inj hentry ▸ hall)
  · have hanswer : Answers Eq newKeys (some (.sealed oldKeys.active (Gcm.toBytes 12 0) oldNote)) _ :=
      hmemory newKeys "old" fun _ hentry => Option.some.inj hentry ▸ hold
    rwa [Answers, if_neg hlost] at hanswer
  · apply hmemory newKeys "plain" fun _ hentry => Option.some.inj hentry ▸ trivial
    rintro _ t rfl hget
    cases hget
  · exact hmemory newKeys "none" fun _ hentry => absurd hentry (Option.some_ne_none _).symm
  · exact hopened List.mem_cons_self
      (hredis newKeys "index" fun _ hentry => Option.some.inj hentry ▸ hnew _)
  · exact hopened hbehind (hredis allKeys "old" fun _ hentry => Option.some.inj hentry ▸ hall)

end Sealing
end Courier
