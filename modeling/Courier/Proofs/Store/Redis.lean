import Courier.Proofs.Result.Carried
import Courier.Proofs.Store.Keeping
import Courier.Store.Redis

/-! Results without an expiry in a server: the texts under their keys and the members of the index stay
in step, so that the store keeps results as the one in memory does. -/
namespace Courier

/-- Results that can be kept as texts: they have a message id and a document. -/
def Result.Storable (r : Result) : Prop := r.messageId ≠ "" ∧ ∃ t, r.encode = .ok t

namespace Redis

theorem members_putMembers (r : Redis) (key : String) (ms : List (ℤ × String)) :
    (r.putMembers key ms).members key = ms := by
  rw [putMembers, members]
  dsimp only
  split_ifs with hempty
  · rw [Keyed.get?_erase_self, List.isEmpty_iff.mp hempty]
    rfl
  · rw [Keyed.get?_insert_self]
    rfl

theorem fault?_of_works {r : Redis} (h : r.broken = none) (commands : List String) :
    r.fault? commands = none := by
  rw [fault?, h]

theorem insertMember_of_before {score : ℤ} {key : String} {ks : List String}
    (h : ∀ k ∈ ks, Text.before key k = true) :
    insertMember score key (ks.map (Prod.mk score)) = (key :: ks).map (Prod.mk score) := by
  cases ks with
  | nil => rfl
  | cons k ks => exact if_pos (.inr ⟨rfl, h k List.mem_cons_self⟩)

theorem filter_ne_of_before {key : String} {ks : List String} (h : ∀ k ∈ ks, Text.before key k = true) :
    ks.filter (· ≠ key) = ks :=
  List.filter_eq_self.mpr fun k hk => decide_eq_true (Text.ne_of_before (h k hk)).symm

/-- Members of one score stand in the order of their texts, as the keys of a map do. -/
theorem insertMember_keys {α : Type} {m : Keyed α} (hm : Keyed.Sorted m) (score : ℤ) (key : String)
    (a : α) : insertMember score key (((Keyed.keys m).filter (· ≠ key)).map (Prod.mk score)) =
      (Keyed.keys (Keyed.insert key a m)).map (Prod.mk score) := by
  induction m with
  | nil => rfl
  | cons e m ih =>
    obtain ⟨k, b⟩ := e
    obtain ⟨hk, hsorted⟩ := Keyed.sorted_cons.mp hm
    rw [Keyed.insert, Keyed.keys, List.map_cons]
    -- the member goes to the front unless the first key stands before it
    split_ifs with heq hbefore
    · subst heq
      rw [List.filter_cons_of_neg (by simp), ← Keyed.keys, filter_ne_of_before hk]
      exact insertMember_of_before hk
    · have hall : ∀ j ∈ k :: Keyed.keys m, Text.before key j = true :=
        List.forall_mem_cons.mpr ⟨hbefore, fun j hj => Text.before_trans hbefore (hk j hj)⟩
      rw [← Keyed.keys, filter_ne_of_before hall]
      exact insertMember_of_before hall
    · rw [List.filter_cons_of_pos (by simpa using Ne.symm heq), List.map_cons, insertMember,
        if_neg (by simp [hbefore]), ← Keyed.keys, ih hsorted]
      rfl

end Redis

namespace RedisStore

variable (c : RedisStore)

theorem key_injective {id id' : String} (h : c.key id = c.key id') : id = id' :=
  (String.append_right_inj _).mp h

theorem key_ne_indexKey (id : String) : c.key id ≠ c.indexKey := by
  intro h
  have h' := congrArg String.toList h
  simp [key, indexKey, String.toList_append, List.append_assoc] at h'

/-- What may happen to a server between two calls: time goes by, though never beyond the score of what
does not expire, and others write, but not under the keys of the store. -/
structure Undisturbed (r r' : Redis) : Prop where
  broken : r'.broken = r.broken
  wall : r.wall ≤ endless → r'.wall ≤ endless
  text : ∀ id, Keyed.get? r'.texts (c.key id) = Keyed.get? r.texts (c.key id)
  index : r'.members c.indexKey = r.members c.indexKey

/-- The text of a result, for ever. -/
def IsTextOf (entry : String × Option ℤ) (result : Result) : Prop :=
  result.Valid ∧ result.encode = .ok entry.1 ∧ entry.2 = none

/-- A working server that holds results: each has a text under its key, and the index has their ids. -/
structure Holds (m : MemoryStore) (r : Redis) : Prop where
  broken : r.broken = none
  wall : r.wall ≤ endless
  sorted : Keyed.Sorted m
  text : ∀ id, Option.Rel IsTextOf (Keyed.get? r.texts (c.key id)) (Keyed.get? m id)
  index : r.members c.indexKey = (Keyed.keys m).map (Prod.mk endless)

variable {c} {m : MemoryStore} {r : Redis}

/-! ### What the calls do to a server that works -/

theorem save_eq (hworks : r.broken = none) {result : Result} (hid : result.messageId ≠ "") {text : String}
    (htext : result.encode = .ok text) :
    c.save result r = ((r.set (c.key result.messageId) text c.ttl).zadd c.indexKey (c.score r)
      result.messageId, none) := by
  rw [save, if_neg hid, htext, Redis.fault?_of_works hworks]

theorem delete_eq (hworks : r.broken = none) (id : String) :
    c.delete id r = ((r.del (c.key id)).zrem c.indexKey id, none) := by
  rw [delete, Redis.fault?_of_works hworks]

theorem list_eq (hworks : r.broken = none) : c.list r = (r.prune c.indexKey r.wall,
    .ok (((r.prune c.indexKey r.wall).members c.indexKey).map Prod.snd)) := by
  have hpruned : (r.prune c.indexKey r.wall).broken = none := hworks
  rw [list, Redis.fault?_of_works hworks]
  dsimp only
  rw [Redis.fault?_of_works hpruned]

/-! ### Results that never expire -/

theorem Holds.undisturbed (h : c.Holds m r) {r' : Redis} (hr : c.Undisturbed r r') : c.Holds m r' where
  broken := hr.broken.trans h.broken
  wall := hr.wall h.wall
  sorted := h.sorted
  text := fun id => hr.text id ▸ h.text id
  index := hr.index.trans h.index

theorem Holds.filter_index (h : c.Holds m r) (id : String) :
    (r.members c.indexKey).filter (fun e => e.2 ≠ id) =
      ((Keyed.keys m).filter (· ≠ id)).map (Prod.mk endless) := by
  rw [h.index, List.filter_map]
  rfl

theorem Holds.save (h : c.Holds m r) (hc : c.ttl = 0) {result : Result} (hvalid : result.Valid)
    (hr : result.Storable) : (c.save result r).2 = none ∧
      c.Holds (Keyed.insert result.messageId result m) (c.save result r).1 := by
  obtain ⟨hnamed, t, ht⟩ := hr
  have hscore : c.score r = endless := by rw [score, hc, if_neg (lt_irrefl 0)]
  rw [save_eq h.broken hnamed ht, hscore]
  refine ⟨rfl, h.broken, h.wall, h.sorted.insert _ _, fun id => ?_, ?_⟩
  · change Option.Rel IsTextOf (Keyed.get? (Keyed.insert (c.key result.messageId) (t, r.expiryOf c.ttl)
      r.texts) (c.key id)) _
    -- ids have keys of their own, so that no other text is touched
    by_cases hid : result.messageId = id
    · subst hid
      rw [Keyed.get?_insert_self, Keyed.get?_insert_self]
      exact .some ⟨hvalid, ht, if_pos hc.le⟩
    · rw [Keyed.get?_insert_of_ne _ (fun heq => hid (c.key_injective heq)), Keyed.get?_insert_of_ne _ hid]
      exact h.text id
  · rw [Redis.zadd, Redis.members_putMembers]
    exact (congrArg _ (h.filter_index _)).trans (Redis.insertMember_keys h.sorted _ _ _)

theorem Holds.delete (h : c.Holds m r) (id : String) :
    (c.delete id r).2 = none ∧ c.Holds (Keyed.erase id m) (c.delete id r).1 := by
  rw [delete_eq h.broken]
  refine ⟨rfl, h.broken, h.wall, h.sorted.erase _, fun id' => ?_, ?_⟩
  · change Option.Rel IsTextOf (Keyed.get? (Keyed.erase (c.key id) r.texts) (c.key id')) _
    by_cases hid : id = id'
    · subst hid
      rw [Keyed.get?_erase_self, Keyed.get?_erase_self]
      exact .none
    · rw [Keyed.get?_erase_of_ne _ (fun heq => hid (c.key_injective heq)), Keyed.get?_erase_of_ne _ hid]
      exact h.text id'
  · rw [Redis.zrem, Redis.members_putMembers, Keyed.keys_erase]
    exact h.filter_index id

theorem Holds.list (h : c.Holds m r) :
    (c.list r).2 = .ok (Keyed.keys m) ∧ c.Holds m (c.list r).1 := by
  -- nothing is pruned, since no clock is beyond the score of what does not expire
  have hpruned : (r.prune c.indexKey r.wall).members c.indexKey = (Keyed.keys m).map (Prod.mk endless) := by
    rw [Redis.prune, Redis.members_putMembers, h.index, List.filter_eq_self]
    intro e he
    obtain ⟨k, -, rfl⟩ := List.mem_map.mp he
    exact decide_eq_true h.wall
  have hholds : c.Holds m (r.prune c.indexKey r.wall) := ⟨h.broken, h.wall, h.sorted, h.text, hpruned⟩
  rw [list_eq h.broken]
  refine ⟨?_, hholds⟩
  rw [hpruned, List.map_map]
  exact congrArg _ (List.map_id _)

theorem load_fst (c : RedisStore) (id : String) (r : Redis) : (c.load id r).1 = r := by
  rw [RedisStore.load]
  split
  · rfl
  · split
    · rfl
    · split <;> rfl

theorem Holds.load_missing (h : c.Holds m r) {id : String} (hid : Keyed.get? m id = none) :
    c.load id r = (r, .error resultNotFound) := by
  have htext := h.text id
  rw [hid] at htext
  generalize hget : Keyed.get? r.texts (c.key id) = entry? at htext
  cases htext
  rw [RedisStore.load, Redis.fault?_of_works h.broken, Redis.get?, hget]

theorem Holds.load_found (h : c.Holds m r) {id : String} {result : Result}
    (hid : Keyed.get? m id = some result) :
    c.load id r = (r, .ok result.carried) ∧ result.ComesBackAs result.carried := by
  have htext := h.text id
  rw [hid] at htext
  generalize hget : Keyed.get? r.texts (c.key id) = entry? at htext
  cases htext with | @some entry _ hentry =>
  obtain ⟨hvalid, hencode, hexpiry⟩ := hentry
  have hlive : r.get? (c.key id) = some entry.1 := by
    rw [Redis.get?, hget]
    dsimp only
    rw [hexpiry]
    rfl
  refine ⟨?_, hvalid.comesBackAs hencode⟩
  rw [RedisStore.load, Redis.fault?_of_works h.broken, hlive]
  dsimp only
  rw [Result.decode?_encode hvalid hencode]

theorem save_refused (c : RedisStore) {result : Result} (h : ¬ result.Storable) (r : Redis) :
    ∃ f, c.save result r = (r, some f) := by
  rw [RedisStore.save]
  split_ifs with hid
  · exact ⟨_, rfl⟩
  · cases hencode : result.encode with
    | error e => exact ⟨_, rfl⟩
    | ok t => exact absurd ⟨hid, t, hencode⟩ h

/-- Without an expiry, the store keeps results. -/
theorem keeps (hc : c.ttl = 0) : c.store.Keeps c.Holds Result.Storable Result.ComesBackAs where
  save := fun h _ hvalid hr => h.save hc hvalid hr
  refuse := fun h _ hr => by
    obtain ⟨f, hf⟩ := c.save_refused hr _
    exact ⟨⟨f, congrArg Prod.snd hf⟩, (congrArg Prod.fst hf).symm ▸ h⟩
  load := fun h id => (c.load_fst id _).symm ▸ h
  found := fun h _ _ hid => ⟨_, congrArg Prod.snd (h.load_found hid).1, (h.load_found hid).2⟩
  missing := fun h _ hid => congrArg Prod.snd (h.load_missing hid)
  delete := Holds.delete
  list := Holds.list

/-- Without an expiry, the store in a server and the one in memory give the same answers to all calls that
save results which can be kept as texts; a result that comes back from the server is the one in memory as
its text is read. Any other result is refused, with nothing changed in the server. The index is under a
key of its own, whatever the message ids are. -/
theorem agrees_with_memory (hc : c.ttl = 0) (hr : c.Holds [] r)
    {calls : List ((Redis → Redis) × StoreCall)}
    (hcalls : ∀ x ∈ calls, (∀ s, c.Undisturbed s (x.1 s)) ∧ x.2.Accepted Result.Storable) :
    List.Forall₂ (StoreAnswer.Agree Result.ComesBackAs)
        (MemoryStore.store.answers (calls.map fun x => (id, x.2)) []) (c.store.answers calls r) ∧
      (∀ result s, result.messageId = "" ∨ (∃ e, result.encode = .error e) →
        ∃ f, c.save result s = (s, some f)) ∧
      ∀ id, c.key id ≠ c.indexKey := by
  have hrefused (result : Result) (s : Redis)
      (h : result.messageId = "" ∨ ∃ e, result.encode = .error e) : ∃ f, c.save result s = (s, some f) := by
    apply c.save_refused
    rintro ⟨hnamed, t, ht⟩
    obtain ⟨e, he⟩ := h.resolve_left hnamed
    rw [he] at ht
    cases ht
  refine ⟨(keeps hc).answers (fun x hx => ?_) hr, hrefused, c.key_ne_indexKey⟩
  obtain ⟨hmeanwhile, haccepted⟩ := hcalls x hx
  exact ⟨fun m s hs => hs.undisturbed (hmeanwhile s), haccepted⟩

/-- A result with an id that looks like the key of the index. -/
def note : Result :=
  { Result.blank with messageId := "index", status := .success, value := .int .int 5 }

theorem note_valid : note.Valid where
  value := .int .int (by decide)
  bindings_sorted := .nil
  bindings_valid := nofun
  steps := ⟨by decide, by decide⟩
  nodeId := nofun
  nanos := by decide
  duration := ⟨by decide, by decide⟩

/-- An hour goes by. -/
def hour (r : Redis) : Redis := r.forward 3600000000000

/-- The note is saved, found an hour later, listed, deleted and gone. -/
def noteCalls : List ((Redis → Redis) × StoreCall) :=
  [(id, .save note), (hour, .load "index"), (hour, .list), (id, .delete "index"), (id, .load "index")]

theorem agrees_with_memory_note :
    List.Forall₂ (StoreAnswer.Agree Result.ComesBackAs)
      [.ended none, .loaded (.ok note), .listed (.ok ["index"]), .ended none,
        .loaded (.error resultNotFound)]
      ((store {}).answers noteCalls {}) := by
  have hhour (s : Redis) : Undisturbed {} s (hour s) := ⟨rfl, id, fun _ => rfl, rfl⟩
  have hid (s : Redis) : Undisturbed {} s s := ⟨rfl, id, fun _ => rfl, rfl⟩
  have hempty : Holds {} [] {} := ⟨rfl, by decide, .nil, fun _ => .none, rfl⟩
  have hcalls : ∀ x ∈ noteCalls,
      (∀ s, Undisturbed {} s (x.1 s)) ∧ x.2.Accepted Result.Storable := by
    simp only [noteCalls, List.forall_mem_cons]
    exact ⟨⟨hid, note_valid, by decide, _, rfl⟩, ⟨hhour, trivial⟩, ⟨hhour, trivial⟩, ⟨hid, trivial⟩, ⟨hid, trivial⟩,
      List.forall_mem_nil _⟩
  have hmemory : MemoryStore.store.answers (noteCalls.map fun x => (id, x.2)) [] =
      [.ended none, .loaded (.ok note), .listed (.ok ["index"]), .ended none,
        .loaded (.error resultNotFound)] := rfl
  rw [← hmemory]
  exact (agrees_with_memory rfl hempty hcalls).1

end RedisStore
end Courier
