import Courier.Proofs.Claim.Agreement
import Courier.Proofs.Store.Redis

/-! The index of a server in which results expire.
A result is gone when its time is over, but its id leaves the index only with a listing in a later second.
So the index has all that can be loaded, and nothing that has expired a second ago. Results, the index and
claims have keys of their own, whatever the ids are. -/
namespace Courier

namespace Redis

/-- Nanoseconds in a second. -/
def second : Int := 1000000000

theorem mem_insertMember {score : Int} {member : String} {ms : List (Int × String)} {e : Int × String} :
    e ∈ insertMember score member ms ↔ e = (score, member) ∨ e ∈ ms := by
  induction ms with
  | nil => simp [insertMember]
  | cons m ms ih =>
    rw [insertMember]
    split_ifs
    · simp
    · rw [List.mem_cons, ih, List.mem_cons]
      tauto

theorem mem_members_zadd {r : Redis} {key : String} {score : Int} {member : String} {e : Int × String} :
    e ∈ (r.zadd key score member).members key ↔
      e = (score, member) ∨ (e ∈ r.members key ∧ e.2 ≠ member) := by
  rw [zadd, members_putMembers, mem_insertMember, List.mem_filter, decide_eq_true_eq]

theorem mem_members_zrem {r : Redis} {key member : String} {e : Int × String} :
    e ∈ (r.zrem key member).members key ↔ e ∈ r.members key ∧ e.2 ≠ member := by
  rw [zrem, members_putMembers, List.mem_filter, decide_eq_true_eq]

theorem mem_members_prune {r : Redis} {key : String} {bound : Int} {e : Int × String} :
    e ∈ (r.prune key bound).members key ↔ e ∈ r.members key ∧ bound ≤ e.1 := by
  rw [prune, members_putMembers, List.mem_filter, decide_eq_true_eq]

/-- What happened to a server has not touched a text. -/
structure Leaves (other : String) (r r' : Redis) : Prop where
  broken : r'.broken = r.broken
  text : Keyed.get? r'.texts other = Keyed.get? r.texts other

namespace Leaves

variable {other key : String}

theorem refl (r : Redis) : r.Leaves other r := ⟨rfl, rfl⟩

theorem set (r : Redis) (h : key ≠ other) (text : String) (ttl : Int) : r.Leaves other (r.set key text ttl) :=
  ⟨rfl, Keyed.get?_insert_of_ne _ h _⟩

theorem del (r : Redis) (h : key ≠ other) : r.Leaves other (r.del key) :=
  ⟨rfl, Keyed.get?_erase_of_ne _ h⟩

theorem zadd {r r' : Redis} (h : r.Leaves other r') (score : Int) (member : String) :
    r.Leaves other (r'.zadd key score member) :=
  ⟨h.broken, h.text⟩

theorem zrem {r r' : Redis} (h : r.Leaves other r') (member : String) :
    r.Leaves other (r'.zrem key member) :=
  ⟨h.broken, h.text⟩

theorem prune (r : Redis) (bound : Int) : r.Leaves other (r.prune key bound) := ⟨rfl, rfl⟩

theorem atTime {r r' : Redis} {time : Int} (h : (r.atTime time).Leaves other r') (t : Int) :
    (r.atTime t).Leaves other (r'.atTime t) :=
  ⟨h.broken, h.text⟩

theorem fault? {r r' : Redis} (h : r.Leaves other r') (commands : List String) :
    r'.fault? commands = r.fault? commands := by
  rw [Redis.fault?, Redis.fault?, h.broken]

theorem get? {r r' : Redis} (h : r.Leaves other r') (hclock : r'.clock = r.clock) :
    r'.get? other = r.get? other := by
  have hlive (expiry : Option Int) : r'.isLive expiry = r.isLive expiry := by
    unfold isLive
    rw [hclock]
  simp only [Redis.get?, h.text, hlive]

end Leaves
end Redis

/-- A call on a server that stores and a claimer share; a store may keep results for a time of its own. -/
inductive ServerCall
  | results (ttl : Int) (call : StoreCall)
  | claims (call : ClaimCall)

namespace ServerCall

/-- The id whose result a call saves or deletes. -/
def resultId : ServerCall → Option String
  | .results _ (.save r) => some r.messageId
  | .results _ (.delete id) => some id
  | _ => none

/-- The id that a call claims or gives back. -/
def claimId : ServerCall → Option String
  | .claims call => some call.id
  | _ => none

/-- Results are kept for whole milliseconds, or for ever. -/
def InMillis : ServerCall → Prop
  | .results ttl _ => 0 ≤ ttl ∧ ttl % 1000000 = 0
  | .claims _ => True

/-- After the call, nothing is left of what was saved under the id before. -/
def Replaces (id : String) : ServerCall → Prop
  | .results _ (.save r) => r.messageId = id ∧ r.Storable
  | .results _ (.delete other) => other = id
  | _ => False

/-- What a call does to a server, with all keys where those of `c` are. -/
def perform (c : RedisStore) : ServerCall → Redis → Redis
  | .results ttl call, r => (({ c with ttl } : RedisStore).store.call call r).1
  | .claims call, r => ((RedisClaimer.claimer ⟨c.keyStart⟩).call call r).1

end ServerCall

/-- Calls with the times at which they are made. -/
abbrev ServerHistory := List (Int × ServerCall)

namespace ServerHistory

/-- The server after a history. -/
def run (c : RedisStore) (history : ServerHistory) (r : Redis) : Redis :=
  history.foldl (fun r e => e.2.perform c (r.atTime e.1)) r

theorem run_concat (c : RedisStore) (history : ServerHistory) (e : Int × ServerCall) (r : Redis) :
    run c (history ++ [e]) r = e.2.perform c ((run c history r).atTime e.1) := by
  rw [run, List.foldl_append]
  rfl

/-- At that time the result was saved under the id, to be kept so long, and since then none was saved and
none deleted under this id. -/
def LastSave (history : ServerHistory) (id : String) (time ttl : Int) (result : Result) : Prop :=
  ∃ before after, history = before ++ (time, .results ttl (.save result)) :: after ∧
    result.messageId = id ∧ result.Storable ∧ ∀ e ∈ after, ¬ e.2.Replaces id

variable {history : ServerHistory} {e : Int × ServerCall} {id : String} {t ttl : Int} {result : Result}

theorem not_lastSave_nil : ¬ LastSave [] id t ttl result := by
  rintro ⟨before, after, hsplit, -⟩
  exact absurd hsplit.symm (by simp)

theorem lastSave_concat : LastSave (history ++ [e]) id t ttl result ↔
    (e = (t, .results ttl (.save result)) ∧ result.messageId = id ∧ result.Storable) ∨
      (LastSave history id t ttl result ∧ ¬ e.2.Replaces id) := by
  constructor
  · rintro ⟨before, after, hsplit, hid, hstorable, hafter⟩
    rcases List.eq_nil_or_concat after with rfl | ⟨earlier, last, rfl⟩
    · obtain ⟨-, hlast⟩ := List.append_inj' hsplit rfl
      exact .inl ⟨List.singleton_inj.mp hlast, hid, hstorable⟩
    · rw [List.concat_eq_append, ← List.cons_append, ← List.append_assoc] at hsplit
      obtain ⟨hbefore, hlast⟩ := List.append_inj' hsplit rfl
      obtain rfl := List.singleton_inj.mp hlast
      rw [List.concat_eq_append, List.forall_mem_append] at hafter
      refine .inr ⟨⟨before, earlier, hbefore, hid, hstorable, hafter.1⟩, ?_⟩
      exact hafter.2 e List.mem_cons_self
  · rintro (⟨rfl, hid, hstorable⟩ | ⟨⟨before, after, rfl, hid, hstorable, hafter⟩, hkept⟩)
    · exact ⟨history, [], rfl, hid, hstorable, List.forall_mem_nil _⟩
    · refine ⟨before, after ++ [e], by simp, hid, hstorable, ?_⟩
      rw [List.forall_mem_append]
      exact ⟨hafter, List.forall_mem_singleton.mpr hkept⟩

theorem lastSave_of_not_replaces (h : ¬ e.2.Replaces id) :
    LastSave (history ++ [e]) id t ttl result ↔ LastSave history id t ttl result := by
  rw [lastSave_concat]
  constructor
  · rintro (⟨rfl, hid, hstorable⟩ | ⟨hlast, -⟩)
    · exact absurd ⟨hid, hstorable⟩ h
    · exact hlast
  · intro hlast
    exact .inr ⟨hlast, h⟩

theorem lastSave_save (h : result.Storable) {t' ttl' : Int} {result' : Result} :
    LastSave (history ++ [(t, .results ttl (.save result))]) result.messageId t' ttl' result' ↔
      t' = t ∧ ttl' = ttl ∧ result' = result := by
  rw [lastSave_concat]
  constructor
  · rintro (⟨heq, -, -⟩ | ⟨-, hkept⟩)
    · cases heq
      exact ⟨rfl, rfl, rfl⟩
    · exact absurd ⟨rfl, h⟩ hkept
  · rintro ⟨rfl, rfl, rfl⟩
    exact .inl ⟨rfl, rfl, h⟩

theorem not_lastSave_delete {t' ttl' : Int} :
    ¬ LastSave (history ++ [(t, .results ttl (.delete id))]) id t' ttl' result := by
  rw [lastSave_concat]
  rintro (⟨heq, -, -⟩ | ⟨-, hkept⟩)
  · cases heq
  · exact hkept rfl

end ServerHistory

namespace RedisStore

open ServerHistory

variable {c : RedisStore} {r r' : Redis}

/-- The claimer whose keys have the same start. -/
def claims (c : RedisStore) : RedisClaimer := ⟨c.keyStart⟩

theorem claimKey_ne_key (c : RedisStore) (id id' : String) : c.claims.key id ≠ c.key id' := by
  intro h
  have hletters := congrArg String.toList h
  simp [claims, RedisClaimer.key, key, String.toList_append, List.append_assoc] at hletters

theorem claimKey_ne_indexKey (c : RedisStore) (id : String) : c.claims.key id ≠ c.indexKey := by
  intro h
  have hletters := congrArg String.toList h
  simp [claims, RedisClaimer.key, indexKey, String.toList_append, List.append_assoc] at hletters

/-- The second in which a result expires that was saved at a time. -/
def scoreAt (ttl time : Int) : Int := if 0 < ttl then (time + ttl) / Redis.second else endless

theorem score_atTime (c : RedisStore) (r : Redis) (t : Int) : c.score (r.atTime t) = scoreAt c.ttl t := by
  have hsum : t / 1000000000 + (t % 1000000000 + c.ttl) / 1000000000 = (t + c.ttl) / 1000000000 := by
    omega
  unfold score scoreAt
  split_ifs
  · exact hsum
  · rfl

/-- What holds of one id after a history of calls, the last of which was not made after `now`. -/
structure TracksId (c : RedisStore) (history : ServerHistory) (now : Int) (r : Redis) (id : String) :
    Prop where
  text : ∀ {t ttl result}, LastSave history id t ttl result →
    ∃ text, result.encode = .ok text ∧
      Keyed.get? r.texts (c.key id) = some (text, MemoryClaims.expiry ttl t)
  saved : ∀ {text expiry}, Keyed.get? r.texts (c.key id) = some (text, expiry) →
    ∃ t ttl result, LastSave history id t ttl result ∧ expiry = MemoryClaims.expiry ttl t
  member : ∀ {score}, (score, id) ∈ r.members c.indexKey →
    ∃ t ttl result, LastSave history id t ttl result ∧ score = scoreAt ttl t
  listed : ∀ {t ttl result}, LastSave history id t ttl result →
    (scoreAt ttl t, id) ∈ r.members c.indexKey ∨ scoreAt ttl t < now / Redis.second

namespace TracksId

variable {history : ServerHistory} {now t ttl : Int} {id : String}

theorem start (hnew : Keyed.get? r.texts (c.key id) = none) (hempty : r.members c.indexKey = []) :
    c.TracksId [] now r id where
  text := fun hlast => absurd hlast not_lastSave_nil
  saved := by
    intro text expiry h
    rw [hnew] at h
    cases h
  member := by
    intro score h
    rw [hempty] at h
    cases h
  listed := fun hlast => absurd hlast not_lastSave_nil

/-- What was dropped from the index by now is dropped by any later time. -/
theorem mono (h : c.TracksId history now r id) {later : Int} (hle : now ≤ later) :
    c.TracksId history later r id where
  text := h.text
  saved := h.saved
  member := h.member
  listed := by
    intro t ttl result hlast
    rcases h.listed hlast with hmem | hbelow
    · exact .inl hmem
    · refine .inr ?_
      unfold Redis.second at hbelow ⊢
      omega

/-- A call that leaves the result of the id as it is, and drops the id from the index only if it is beyond
its second. -/
theorem frame (h : c.TracksId history now r id) {e : Int × ServerCall} (hcall : ¬ e.2.Replaces id)
    (htext : Keyed.get? r'.texts (c.key id) = Keyed.get? r.texts (c.key id))
    (hindex : ∀ score, (score, id) ∈ r'.members c.indexKey → (score, id) ∈ r.members c.indexKey)
    (hkept : ∀ score, (score, id) ∈ r.members c.indexKey →
      (score, id) ∈ r'.members c.indexKey ∨ score < now / Redis.second) :
    c.TracksId (history ++ [e]) now r' id where
  text := by
    intro t ttl result hlast
    rw [htext]
    exact h.text ((lastSave_of_not_replaces hcall).mp hlast)
  saved := by
    intro text expiry hget
    rw [htext] at hget
    obtain ⟨t, ttl, result, hlast, hexpiry⟩ := h.saved hget
    exact ⟨t, ttl, result, (lastSave_of_not_replaces hcall).mpr hlast, hexpiry⟩
  member := by
    intro score hmem
    obtain ⟨t, ttl, result, hlast, hscore⟩ := h.member (hindex score hmem)
    exact ⟨t, ttl, result, (lastSave_of_not_replaces hcall).mpr hlast, hscore⟩
  listed := by
    intro t ttl result hlast
    rcases h.listed ((lastSave_of_not_replaces hcall).mp hlast) with hmem | hbelow
    · exact hkept _ hmem
    · exact .inr hbelow

/-- The id of a result that was just saved. -/
theorem fresh {result : Result} (hlast : ∀ {t' ttl' result'},
      LastSave history id t' ttl' result' ↔ t' = t ∧ ttl' = ttl ∧ result' = result)
    {text : String} (htext : result.encode = .ok text)
    (hget : Keyed.get? r.texts (c.key id) = some (text, MemoryClaims.expiry ttl t))
    (hindex : ∀ score, (score, id) ∈ r.members c.indexKey ↔ score = scoreAt ttl t) :
    c.TracksId history now r id where
  text := by
    intro t' ttl' result' h
    obtain ⟨rfl, rfl, rfl⟩ := hlast.mp h
    exact ⟨text, htext, hget⟩
  saved := by
    intro text' expiry h
    rw [hget] at h
    cases h
    exact ⟨t, ttl, result, hlast.mpr ⟨rfl, rfl, rfl⟩, rfl⟩
  member := by
    intro score h
    exact ⟨t, ttl, result, hlast.mpr ⟨rfl, rfl, rfl⟩, (hindex score).mp h⟩
  listed := by
    intro t' ttl' result' h
    obtain ⟨rfl, rfl, rfl⟩ := hlast.mp h
    exact .inl ((hindex _).mpr rfl)

/-- An id without a result. -/
theorem absent (hlast : ∀ {t ttl result}, ¬ LastSave history id t ttl result)
    (hget : Keyed.get? r.texts (c.key id) = none)
    (hindex : ∀ score, (score, id) ∉ r.members c.indexKey) : c.TracksId history now r id where
  text := fun h => absurd h hlast
  saved := by
    intro text expiry h
    rw [hget] at h
    cases h
  member := fun h => absurd h (hindex _)
  listed := fun h => absurd h hlast

end TracksId

/-- What holds of a server after a history of calls, the last of which was not made after `now`. -/
structure Tracks (c : RedisStore) (history : ServerHistory) (now : Int) (r : Redis) : Prop where
  works : r.broken = none
  ids : ∀ id, c.TracksId history now r id

namespace Tracks

variable {history : ServerHistory} {now t ttl : Int}

theorem atTime (h : c.Tracks history now r) (t : Int) : c.Tracks history now (r.atTime t) := by
  refine ⟨h.works, fun id => ?_⟩
  have hid := h.ids id
  exact ⟨hid.text, hid.saved, hid.member, hid.listed⟩

theorem save (h : c.Tracks history t r) {result : Result} (hid : result.messageId ≠ "") {text : String}
    (htext : result.encode = .ok text) (hmillis : 0 < ttl → ttl % 1000000 = 0) :
    c.Tracks (history ++ [(t, .results ttl (.save result))]) t
      (((r.atTime t).set (c.key result.messageId) text ttl).zadd c.indexKey (scoreAt ttl t)
        result.messageId) := by
  refine ⟨h.works, fun id => ?_⟩
  by_cases heq : result.messageId = id
  · subst heq
    refine .fresh (lastSave_save ⟨hid, text, htext⟩) htext ?_ fun score => ?_
    · rw [← r.expiryOf_atTime t hmillis]
      exact Keyed.get?_insert_self _ _ _
    · rw [Redis.mem_members_zadd]
      simp
  · refine (h.ids id).frame (fun hreplaced => heq hreplaced.1) ?_ ?_ ?_
    · exact Keyed.get?_insert_of_ne _ (fun hkeys => heq (c.key_injective hkeys)) _
    · intro score hmem
      rcases Redis.mem_members_zadd.mp hmem with hnew | ⟨hold, -⟩
      · exact absurd (Prod.mk.inj hnew).2.symm heq
      · exact hold
    · intro score hmem
      exact .inl (Redis.mem_members_zadd.mpr (.inr ⟨hmem, Ne.symm heq⟩))

theorem delete (h : c.Tracks history t r) (id : String) :
    c.Tracks (history ++ [(t, .results ttl (.delete id))]) t
      (((r.atTime t).del (c.key id)).zrem c.indexKey id) := by
  refine ⟨h.works, fun other => ?_⟩
  by_cases heq : id = other
  · subst heq
    refine .absent not_lastSave_delete (Keyed.get?_erase_self _ _) fun score hmem => ?_
    exact (Redis.mem_members_zrem.mp hmem).2 rfl
  · refine (h.ids other).frame heq ?_ ?_ ?_
    · exact Keyed.get?_erase_of_ne _ fun hkeys => heq (c.key_injective hkeys)
    · intro score hmem
      exact (Redis.mem_members_zrem.mp hmem).1
    · intro score hmem
      exact .inl (Redis.mem_members_zrem.mpr ⟨hmem, Ne.symm heq⟩)

/-- A call that leaves all results and the index as they are. -/
theorem spared (h : c.Tracks history now r) {e : Int × ServerCall} (hcall : ∀ id, ¬ e.2.Replaces id)
    (hworks : r'.broken = none)
    (htext : ∀ id, Keyed.get? r'.texts (c.key id) = Keyed.get? r.texts (c.key id))
    (hindex : r'.members c.indexKey = r.members c.indexKey) : c.Tracks (history ++ [e]) now r' := by
  refine ⟨hworks, fun id => (h.ids id).frame (hcall id) (htext id) ?_ ?_⟩
  · intro score hmem
    exact hindex ▸ hmem
  · intro score hmem
    exact .inl (hindex.symm ▸ hmem)

/-- A call that changes nothing. -/
theorem unchanged (h : c.Tracks history now r) {e : Int × ServerCall} (hcall : ∀ id, ¬ e.2.Replaces id) :
    c.Tracks (history ++ [e]) now (r.atTime t) :=
  h.spared hcall h.works (fun _ => rfl) rfl

/-- A listing drops from the index what has expired in an earlier second. -/
theorem list (h : c.Tracks history t r) :
    c.Tracks (history ++ [(t, .results ttl .list)]) t
      ((r.atTime t).prune c.indexKey (r.atTime t).wall) := by
  refine ⟨h.works, fun id => (h.ids id).frame (fun hreplaced => hreplaced) rfl ?_ ?_⟩
  · intro score hmem
    exact (Redis.mem_members_prune.mp hmem).1
  · intro score hmem
    by_cases hbound : (r.atTime t).wall ≤ score
    · exact .inl (Redis.mem_members_prune.mpr ⟨hmem, hbound⟩)
    · exact .inr (not_le.mp hbound)

/-- A text under the key of a claim is neither a result nor a part of the index. -/
theorem claims (h : c.Tracks history t r) (call : ClaimCall) :
    c.Tracks (history ++ [(t, .claims call)]) t (ServerCall.perform c (.claims call) (r.atTime t)) := by
  have hworks : (r.atTime t).broken = none := h.works
  cases call with
  | claim id ttl =>
    change c.Tracks _ t (c.claims.claim id ttl (r.atTime t)).1
    rw [RedisClaimer.claim_eq hworks]
    split_ifs
    · exact h.unchanged fun _ hreplaced => hreplaced
    · refine h.spared (fun _ hreplaced => hreplaced) hworks (fun id' => ?_) rfl
      exact Keyed.get?_insert_of_ne _ (c.claimKey_ne_key id id') _
  | release id =>
    change c.Tracks _ t (c.claims.release id (r.atTime t)).1
    rw [RedisClaimer.release_eq hworks]
    refine h.spared (fun _ hreplaced => hreplaced) hworks (fun id' => ?_) rfl
    exact Keyed.get?_erase_of_ne _ (c.claimKey_ne_key id id')

/-- One call. -/
theorem step (h : c.Tracks history t r) {call : ServerCall} (hcall : call.InMillis) :
    c.Tracks (history ++ [(t, call)]) t (call.perform c (r.atTime t)) := by
  have hworks : (r.atTime t).broken = none := h.works
  cases call with
  | claims call => exact h.claims call
  | results ttl call =>
    cases call with
    | save result =>
      change c.Tracks _ t (({ c with ttl } : RedisStore).save result (r.atTime t)).1
      by_cases hstorable : result.Storable
      · obtain ⟨hid, text, htext⟩ := hstorable
        rw [save_eq hworks hid htext, score_atTime]
        exact h.save hid htext fun _ => hcall.2
      · obtain ⟨f, hrefused⟩ := ({ c with ttl } : RedisStore).save_refused hstorable (r.atTime t)
        rw [hrefused]
        exact h.unchanged fun _ hreplaced => hstorable hreplaced.2
    | load id =>
      change c.Tracks _ t (({ c with ttl } : RedisStore).load id (r.atTime t)).1
      rw [load_fst]
      exact h.unchanged fun _ hreplaced => hreplaced
    | delete id =>
      change c.Tracks _ t (({ c with ttl } : RedisStore).delete id (r.atTime t)).1
      rw [delete_eq hworks]
      exact h.delete id
    | list =>
      change c.Tracks _ t (({ c with ttl } : RedisStore).list (r.atTime t)).1
      rw [list_eq hworks]
      exact h.list

end Tracks

/-- All calls of a history. -/
theorem tracks_run (hworks : r.broken = none) (hnew : ∀ id, Keyed.get? r.texts (c.key id) = none)
    (hempty : r.members c.indexKey = []) {history : ServerHistory}
    (hsorted : history.Pairwise fun e e' => e.1 ≤ e'.1) (hcalls : ∀ e ∈ history, e.2.InMillis) {now : Int}
    (hnow : ∀ e ∈ history, e.1 ≤ now) : c.Tracks history now (run c history r) := by
  -- From one call to the next one, what was dropped before is dropped at the time of this call.
  induction history using List.reverseRecOn generalizing now with
  | nil => exact ⟨hworks, fun id => .start (hnew id) hempty⟩
  | append_singleton history e ih =>
    obtain ⟨hearlier, -, hlast⟩ := List.pairwise_append.mp hsorted
    obtain ⟨hcalls', hcall⟩ := List.forall_mem_append.mp hcalls
    have htime : ∀ e' ∈ history, e'.1 ≤ e.1 := fun e' he' => hlast e' he' e List.mem_cons_self
    have hbefore := ih hearlier hcalls' htime
    have hstep := hbefore.step (hcall e List.mem_cons_self)
    rw [run_concat]
    have hle := hnow e (List.mem_append_right _ List.mem_cons_self)
    exact ⟨hstep.works, fun id => (hstep.ids id).mono hle⟩

/-! ### What a listing shows -/

/-- What was saved at a time is still there. -/
def Lives (t ttl now : Int) : Prop := 0 < ttl → now < t + ttl

/-- What was saved at a time has expired, but for less than a second. -/
def JustExpired (t ttl now : Int) : Prop := 0 < ttl ∧ t + ttl ≤ now ∧ now < t + ttl + Redis.second

theorem isLive_expiry {t ttl : Int} : r.isLive (MemoryClaims.expiry ttl t) = true ↔ Lives t ttl r.clock := by
  unfold MemoryClaims.expiry Lives
  split_ifs with hpos
  · simp [Redis.isLive, hpos]
  · simp [Redis.isLive, hpos]

/-- The second of what is still there has not gone by. -/
theorem Lives.not_below {t ttl now : Int} (h : Lives t ttl now) (hend : now / Redis.second ≤ endless) :
    now / Redis.second ≤ scoreAt ttl t := by
  unfold scoreAt
  split_ifs with hpos
  · have hlt := h hpos
    unfold Redis.second
    omega
  · exact hend

/-- A score that is not below the second of a time was given to what expires in that second or later. -/
theorem lives_or_justExpired {t ttl now : Int} (h : now / Redis.second ≤ scoreAt ttl t) :
    Lives t ttl now ∨ JustExpired t ttl now := by
  by_cases hlives : Lives t ttl now
  · exact .inl hlives
  · unfold Lives at hlives
    push Not at hlives
    obtain ⟨hpos, hover⟩ := hlives
    rw [scoreAt, if_pos hpos] at h
    refine .inr ⟨hpos, hover, ?_⟩
    unfold Redis.second at h ⊢
    omega

namespace Tracks

variable {history : ServerHistory} {now t ttl : Int} {id : String} {result : Result}

theorem get?_of_lives (h : c.Tracks history now r) (hlast : LastSave history id t ttl result)
    (hlives : Lives t ttl r.clock) : ∃ text, result.encode = .ok text ∧ r.get? (c.key id) = some text := by
  obtain ⟨text, htext, hget⟩ := (h.ids id).text hlast
  refine ⟨text, htext, ?_⟩
  rw [Redis.get?, hget]
  exact if_pos (isLive_expiry.mpr hlives)

/-- What is loaded was saved and is still there. -/
theorem lives_of_load (h : c.Tracks history now r) (hload : (c.load id r).2 = .ok result) :
    ∃ t ttl result, LastSave history id t ttl result ∧ Lives t ttl r.clock := by
  rw [load, Redis.fault?_of_works h.works, Redis.get?] at hload
  cases hget : Keyed.get? r.texts (c.key id) with
  | none =>
    rw [hget] at hload
    cases hload
  | some entry =>
    obtain ⟨text, expiry⟩ := entry
    obtain ⟨t, ttl, result, hlast, rfl⟩ := (h.ids id).saved hget
    refine ⟨t, ttl, result, hlast, ?_⟩
    by_contra hgone
    rw [← isLive_expiry] at hgone
    simp only [hget, hgone] at hload
    cases hload

/-- The result that was saved last comes back, as its text is read, as long as it lives. -/
theorem load_of_lives (h : c.Tracks history now r) (hlast : LastSave history id t ttl result)
    (hlives : Lives t ttl r.clock) (hvalid : result.Valid) : (c.load id r).2 = .ok result.carried := by
  obtain ⟨text, htext, hget⟩ := h.get?_of_lives hlast hlives
  rw [load, Redis.fault?_of_works h.works, hget]
  dsimp only
  rw [Result.decode?_encode hvalid htext]

theorem mem_listing (h : c.Tracks history now r) (hlast : LastSave history id t ttl result)
    (hlives : Lives t ttl now) (hend : now / Redis.second ≤ endless) :
    id ∈ ((r.prune c.indexKey (now / Redis.second)).members c.indexKey).map Prod.snd := by
  have hscore := hlives.not_below hend
  have hmem := ((h.ids id).listed hlast).resolve_right (not_lt.mpr hscore)
  exact List.mem_map_of_mem (Redis.mem_members_prune.mpr ⟨hmem, hscore⟩)

theorem of_mem_listing (h : c.Tracks history now r)
    (hmem : id ∈ ((r.prune c.indexKey (now / Redis.second)).members c.indexKey).map Prod.snd) :
    ∃ t ttl result, LastSave history id t ttl result ∧ (Lives t ttl now ∨ JustExpired t ttl now) := by
  obtain ⟨⟨score, id'⟩, hmember, rfl⟩ := List.mem_map.mp hmem
  obtain ⟨hindex, hbound⟩ := Redis.mem_members_prune.mp hmember
  obtain ⟨t, ttl, result, hlast, rfl⟩ := (h.ids id').member hindex
  exact ⟨t, ttl, result, hlast, lives_or_justExpired hbound⟩

end Tracks

/-! ### What a call leaves alone -/

theorem load_congr {id : String} (h : r.Leaves (c.key id) r') (hclock : r'.clock = r.clock) :
    (c.load id r').2 = (c.load id r).2 := by
  rw [load, load, h.fault?, h.get? hclock]
  cases r.fault? ["GET"] with
  | some f => rfl
  | none =>
    cases r.get? (c.key id) with
    | none => rfl
    | some text =>
      dsimp only
      cases Result.decode? text <;> rfl

theorem claim_congr {id : String} (h : r.Leaves (c.claims.key id) r') (hclock : r'.clock = r.clock)
    (ttl : Int) : (c.claims.claim id ttl r').2 = (c.claims.claim id ttl r).2 := by
  rw [RedisClaimer.claim, RedisClaimer.claim, h.fault?, h.get? hclock]
  cases r.fault? [if 0 < ttl then "SET" else "SETNX"] with
  | some f => rfl
  | none =>
    dsimp only
    split_ifs <;> rfl

section Leaves

variable {other : String}

theorem save_leaves (c : RedisStore) {result : Result} (hkey : c.key result.messageId ≠ other) (r : Redis) :
    r.Leaves other (c.save result r).1 := by
  rw [save]
  split_ifs
  · exact .refl r
  · split
    · exact .refl r
    · split
      · exact .refl r
      · exact (Redis.Leaves.set r hkey _ _).zadd _ _

theorem delete_leaves (c : RedisStore) {id : String} (hkey : c.key id ≠ other) (r : Redis) :
    r.Leaves other (c.delete id r).1 := by
  rw [delete]
  split
  · exact .refl r
  · exact (Redis.Leaves.del r hkey).zrem _

theorem list_leaves (c : RedisStore) (r : Redis) : r.Leaves other (c.list r).1 := by
  rw [list]
  split
  · exact .refl r
  · dsimp only
    split
    · exact .prune r _
    · exact .prune r _

theorem claim_leaves (c : RedisClaimer) {id : String} (hkey : c.key id ≠ other) (ttl : Int) (r : Redis) :
    r.Leaves other (c.claim id ttl r).1 := by
  rw [RedisClaimer.claim]
  split
  · exact .refl r
  · split_ifs
    · exact .refl r
    · exact .set r hkey _ _

theorem release_leaves (c : RedisClaimer) {id : String} (hkey : c.key id ≠ other) (r : Redis) :
    r.Leaves other (c.release id r).1 := by
  rw [RedisClaimer.release]
  split
  · exact .refl r
  · exact .del r hkey

/-- A call writes no text but under the key of its own result or claim. -/
theorem perform_leaves (c : RedisStore) (call : ServerCall) (r : Redis) (other : String)
    (hresult : ∀ id, call.resultId = some id → c.key id ≠ other)
    (hclaim : ∀ id, call.claimId = some id → c.claims.key id ≠ other) :
    r.Leaves other (call.perform c r) := by
  cases call with
  | claims call =>
    cases call with
    | claim id ttl => exact claim_leaves c.claims (hclaim id rfl) ttl r
    | release id => exact release_leaves c.claims (hclaim id rfl) r
  | results ttl call =>
    cases call with
    | save result => exact save_leaves { c with ttl } (hresult _ rfl) r
    | load id =>
      have hsame : (({ c with ttl } : RedisStore).load id r).1 = r := load_fst _ id r
      exact ⟨congrArg Redis.broken hsame, congrArg (fun r => Keyed.get? r.texts other) hsame⟩
    | delete id => exact delete_leaves { c with ttl } (hresult id rfl) r
    | list => exact list_leaves { c with ttl } r

end Leaves

/-- No call changes what another id's result or claim is, at any time. -/
theorem other_unchanged (c : RedisStore) (call : ServerCall) (r : Redis) (time later : Int) (id : String) :
    (call.resultId ≠ some id →
      (c.load id ((call.perform c (r.atTime time)).atTime later)).2 = (c.load id (r.atTime later)).2) ∧
    (call.claimId ≠ some id → ∀ ttl,
      (c.claims.claim id ttl ((call.perform c (r.atTime time)).atTime later)).2 =
        (c.claims.claim id ttl (r.atTime later)).2) := by
  constructor
  · intro hother
    have hleaves := c.perform_leaves call (r.atTime time) (c.key id)
      (fun id' hid' heq => hother (c.key_injective heq ▸ hid')) fun id' _ => c.claimKey_ne_key id' id
    exact load_congr (hleaves.atTime later) rfl
  · intro hother ttl
    have hleaves := c.perform_leaves call (r.atTime time) (c.claims.key id)
      (fun id' _ => (c.claimKey_ne_key id id').symm)
      fun id' hid' heq => hother (RedisClaimer.key_inj heq ▸ hid')
    exact claim_congr (hleaves.atTime later) rfl ttl

/-- Stores that keep results for different times and a claimer share a server in which there was nothing
under their keys. After any history of calls, a listing has all ids whose results can be loaded. Each id
it has was saved and neither saved again nor deleted since; what was saved can be loaded still, or it
expired less than a second ago. No call changes what comes of loading or claiming another id, whatever
the ids look like. No clock reaches the score of what never expires. -/
theorem index_tracks (c : RedisStore) (hworks : r.broken = none)
    (hnew : ∀ id, Keyed.get? r.texts (c.key id) = none) (hempty : r.members c.indexKey = [])
    {history : ServerHistory} (hsorted : history.Pairwise fun e e' => e.1 ≤ e'.1)
    (hcalls : ∀ e ∈ history, e.2.InMillis) {now : Int} (hnow : ∀ e ∈ history, e.1 ≤ now)
    (hend : now / Redis.second ≤ endless) :
    (∃ ids, (c.list ((run c history r).atTime now)).2 = .ok ids ∧
      (∀ id result, (c.load id ((run c history r).atTime now)).2 = .ok result → id ∈ ids) ∧
      ∀ id ∈ ids, ∃ t ttl result, LastSave history id t ttl result ∧
        ((Lives t ttl now ∧
            (result.Valid → (c.load id ((run c history r).atTime now)).2 = .ok result.carried)) ∨
          JustExpired t ttl now)) ∧
      (∀ (call : ServerCall) (s : Redis) (time later : Int) (id : String),
        (call.resultId ≠ some id →
          (c.load id ((call.perform c (s.atTime time)).atTime later)).2 = (c.load id (s.atTime later)).2) ∧
        (call.claimId ≠ some id → ∀ ttl,
          (c.claims.claim id ttl ((call.perform c (s.atTime time)).atTime later)).2 =
            (c.claims.claim id ttl (s.atTime later)).2)) ∧
      ∀ id, c.key id ≠ c.indexKey ∧ c.claims.key id ≠ c.indexKey ∧ ∀ id', c.claims.key id ≠ c.key id' := by
  have htracks := (tracks_run hworks hnew hempty hsorted hcalls hnow).atTime now
  refine ⟨⟨_, congrArg Prod.snd (list_eq htracks.works), ?_, ?_⟩, c.other_unchanged, ?_⟩
  · intro id result hload
    obtain ⟨t, ttl, result, hlast, hlives⟩ := htracks.lives_of_load hload
    exact htracks.mem_listing hlast hlives hend
  · intro id hmem
    obtain ⟨t, ttl, result, hlast, hlives | hexpired⟩ := htracks.of_mem_listing hmem
    · exact ⟨t, ttl, result, hlast, .inl ⟨hlives, htracks.load_of_lives hlast hlives⟩⟩
    · exact ⟨t, ttl, result, hlast, .inr hexpired⟩
  · intro id
    exact ⟨c.key_ne_indexKey id, c.claimKey_ne_indexKey id, c.claimKey_ne_key id⟩

/-- A result is kept for a second and a half, while its id is claimed, and one with an id that looks like
the key of the index is kept for ever. -/
def visits : ServerHistory :=
  [(0, .results 1500000000 (.save { note with messageId := "m1" })), (7, .claims (.claim "m1" 5000000)),
    (7, .results 0 (.save note)), (1200000000, .results 1500000000 .list),
    (1300000000, .results 0 (.delete "claim:m1"))]

/-- The id of the first one is in the index for the rest of the second in which it has expired. -/
theorem index_tracks_visits :
    (list {} ((run {} visits {}).atTime 1600000000)).2 = .ok ["m1", "index"] ∧
      (load {} "m1" ((run {} visits {}).atTime 1600000000)).2 = .error resultNotFound ∧
      ∀ id ∈ ["m1", "index"], ∃ t ttl result, LastSave visits id t ttl result ∧
        ((Lives t ttl 1600000000 ∧ (result.Valid →
            (load {} id ((run {} visits {}).atTime 1600000000)).2 = .ok result.carried)) ∨
          JustExpired t ttl 1600000000) := by
  have hsorted : visits.Pairwise fun e e' => e.1 ≤ e'.1 := by simp [visits]
  have hcalls : ∀ e ∈ visits, e.2.InMillis := by simp [visits, ServerCall.InMillis]
  have hnow : ∀ e ∈ visits, e.1 ≤ 1600000000 := by simp [visits]
  have htracks := (index_tracks {} (r := {}) rfl (fun _ => rfl) rfl hsorted hcalls hnow (by decide)).1
  obtain ⟨ids, hlist, -, hids⟩ := htracks
  have hlisted : (list {} ((run {} visits {}).atTime 1600000000)).2 = .ok ["m1", "index"] := rfl
  rw [hlisted] at hlist
  cases hlist
  exact ⟨hlisted, rfl, hids⟩

end RedisStore
end Courier
