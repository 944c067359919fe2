import Courier.Claim.Redis
import Courier.Proofs.Service.Rejected
import Courier.Proofs.Store.Redis

/-! Claims in memory and claims in a server, over histories of calls.
Both keep, for each id, when the claim on it expires, and neither looks at any other id. So the two
give the same answers, also at the very instant at which a claim expires. -/
namespace Courier

/-- A call on a claimer. -/
inductive ClaimCall
  | claim (id : String) (ttl : Int)
  | release (id : String)

/-- What a call answers. -/
inductive ClaimAnswer
  | claimed (ok : Except Fault Bool)
  | released (fault : Option Fault)
  deriving DecidableEq

namespace ClaimCall

def id : ClaimCall → String
  | .claim id _ => id
  | .release id => id

/-- Ids are claimed for whole milliseconds, or for ever. -/
def InMillis : ClaimCall → Prop
  | .claim _ ttl => 0 < ttl → ttl % 1000000 = 0
  | .release _ => True

end ClaimCall

/-- Calls with the times at which they are made. -/
abbrev ClaimHistory := List (Int × ClaimCall)

namespace Claimer

variable {σ : Type}

def call (c : Claimer σ) : ClaimCall → σ → σ × ClaimAnswer
  | .claim id ttl, s => let (s, ok) := c.claim id ttl s; (s, .claimed ok)
  | .release id, s => let (s, f) := c.release id s; (s, .released f)

section Timed

variable (c : Claimer σ) (clock : Int → σ → σ)

/-- The answer to a call at a time; `clock` lets it be that time. -/
def answer (e : Int × ClaimCall) (s : σ) : ClaimAnswer := (c.call e.2 (clock e.1 s)).2

/-- The state after a history. -/
def after (calls : ClaimHistory) (s : σ) : σ :=
  calls.foldl (fun s e => (c.call e.2 (clock e.1 s)).1) s

/-- The answers to all calls of a history. -/
def answers : ClaimHistory → σ → List ClaimAnswer
  | [], _ => []
  | e :: calls, s => c.answer clock e s :: answers calls (c.after clock [e] s)

theorem answers_getElem? (before : ClaimHistory) (e : Int × ClaimCall) (calls : ClaimHistory) (s : σ) :
    (c.answers clock (before ++ e :: calls) s)[before.length]? =
      some (c.answer clock e (c.after clock before s)) := by
  induction before generalizing s with
  | nil => rfl
  | cons e' before ih => exact ih (c.after clock [e'] s)

end Timed

end Claimer

namespace MemoryClaims

def atTime (t : Int) (c : MemoryClaims) : MemoryClaims := c.advance (t - c.now)

theorem atTime_now (t : Int) (c : MemoryClaims) : (c.atTime t).now = t := by
  have hsum : c.now + (t - c.now) = t := by omega
  exact hsum

variable {m m' : MemoryClaims} {id : String}

/-- What an id is claimed for now decides whether it can be claimed. -/
theorem answer_congr {e : Int × ClaimCall}
    (h : Keyed.get? m'.claims e.2.id = Keyed.get? m.claims e.2.id) :
    claimer.answer atTime e m' = claimer.answer atTime e m := by
  obtain ⟨t, call⟩ := e
  cases call with
  | release id => rfl
  | claim id ttl =>
    have hholds : (m'.atTime t).holds id = (m.atTime t).holds id := by
      apply holds_congr
      · rw [atTime_now, atTime_now]
      · exact h
    have hsame : ((m'.atTime t).claim id ttl).2 = ((m.atTime t).claim id ttl).2 := by
      rw [claim_answer, claim_answer, hholds]
    exact congrArg (fun ok => ClaimAnswer.claimed (.ok ok)) hsame

theorem claim_eq (m : MemoryClaims) (id : String) (ttl : Int) : m.claim id ttl =
    if m.holds id then (m, false)
    else ({ m with claims := Keyed.insert id (expiry ttl m.now) m.claims }, true) :=
  rfl

/-- What a claim leaves on record of its id. -/
theorem get?_claim_self (m : MemoryClaims) (id : String) (ttl : Int) :
    Keyed.get? (m.claim id ttl).1.claims id =
      if m.holds id then Keyed.get? m.claims id else some (expiry ttl m.now) := by
  rw [claim_eq]
  split_ifs
  · rfl
  · exact Keyed.get?_insert_self _ _ _

theorem get?_claim_of_ne (m : MemoryClaims) {other : String} (h : other ≠ id) (ttl : Int) :
    Keyed.get? (m.claim other ttl).1.claims id = Keyed.get? m.claims id := by
  rw [claim_eq]
  split_ifs
  · rfl
  · exact Keyed.get?_insert_of_ne _ h _

/-- A call leaves what the other ids are claimed for. -/
theorem get?_call_of_ne (t : Int) {call : ClaimCall} (h : call.id ≠ id) (m : MemoryClaims) :
    Keyed.get? (claimer.call call (m.atTime t)).1.claims id = Keyed.get? m.claims id := by
  cases call with
  | claim other ttl => exact get?_claim_of_ne (m.atTime t) h ttl
  | release other => exact Keyed.get?_erase_of_ne _ h

/-- What a call leaves of its own id depends on that id alone. -/
theorem get?_call_congr (t : Int) (call : ClaimCall)
    (h : Keyed.get? m'.claims call.id = Keyed.get? m.claims call.id) :
    Keyed.get? (claimer.call call (m'.atTime t)).1.claims call.id =
      Keyed.get? (claimer.call call (m.atTime t)).1.claims call.id := by
  cases call with
  | release id =>
    have hgone (m : MemoryClaims) : Keyed.get? (m.release id).claims id = none :=
      Keyed.get?_erase_self _ _
    exact (hgone _).trans (hgone _).symm
  | claim id ttl =>
    have hnow : (m'.atTime t).now = (m.atTime t).now := by rw [atTime_now, atTime_now]
    have hget : Keyed.get? (m'.atTime t).claims id = Keyed.get? (m.atTime t).claims id := h
    change Keyed.get? ((m'.atTime t).claim id ttl).1.claims id =
      Keyed.get? ((m.atTime t).claim id ttl).1.claims id
    rw [get?_claim_self, get?_claim_self, holds_congr hnow hget, hget, hnow]

/-- After a history, an id is claimed for what it is after the calls for that id. -/
theorem get?_after_own (calls : ClaimHistory)
    (h : Keyed.get? m'.claims id = Keyed.get? m.claims id) :
    Keyed.get? (claimer.after atTime (calls.filter fun e => e.2.id = id) m').claims id =
      Keyed.get? (claimer.after atTime calls m).claims id := by
  induction calls generalizing m m' with
  | nil => exact h
  | cons e calls ih =>
    by_cases hid : e.2.id = id
    · rw [List.filter_cons_of_pos (by simpa using hid)]
      apply ih
      subst hid
      exact get?_call_congr e.1 e.2 h
    · rw [List.filter_cons_of_neg (by simpa using hid)]
      apply ih
      rw [h]
      exact (get?_call_of_ne e.1 hid m).symm

end MemoryClaims

namespace Redis

/-- The server when its clock, which is that of its clients, reads a time in nanoseconds. -/
def atTime (t : Int) (r : Redis) : Redis :=
  { r with clock := t, wall := t / 1000000000, fraction := t % 1000000000 }

theorem expiryOf_atTime (r : Redis) (t : Int) {ttl : Int} (h : 0 < ttl → ttl % 1000000 = 0) :
    (r.atTime t).expiryOf ttl = MemoryClaims.expiry ttl t := by
  unfold expiryOf MemoryClaims.expiry
  -- A time of less than a second is kept as it is if it is one of whole milliseconds.
  by_cases hpos : 0 < ttl
  · have hmillis := h hpos
    have hle : ¬ ttl ≤ 0 := by omega
    have hlarge : ¬ ttl < 1000000 := by omega
    have hkept : ttl / 1000000 * 1000000 = ttl := by omega
    rw [if_neg hle, if_neg hlarge, if_pos hpos, hkept]
    split_ifs
    · rfl
    · rfl
  · have hle : ttl ≤ 0 := by omega
    rw [if_pos hle, if_neg hpos]

end Redis

namespace RedisClaimer

variable {c : RedisClaimer} {m : MemoryClaims} {r : Redis}

theorem key_inj {id id' : String} (h : c.key id = c.key id') : id = id' :=
  (String.append_right_inj _).mp h

theorem claim_eq (hworks : r.broken = none) (id : String) (ttl : Int) : c.claim id ttl r =
    if (r.get? (c.key id)).isSome then (r, .ok false) else (r.set (c.key id) "0" ttl, .ok true) := by
  rw [claim, Redis.fault?_of_works hworks]

theorem release_eq (hworks : r.broken = none) (id : String) :
    c.release id r = (r.del (c.key id), none) := by
  rw [release, Redis.fault?_of_works hworks]

/-- A working server in which ids are claimed as they are in memory. -/
structure Mirrors (c : RedisClaimer) (m : MemoryClaims) (r : Redis) : Prop where
  broken : r.broken = none
  expiry : ∀ id, (Keyed.get? r.texts (c.key id)).map Prod.snd = Keyed.get? m.claims id

namespace Mirrors

theorem atTime (h : c.Mirrors m r) (t : Int) : c.Mirrors (m.atTime t) (r.atTime t) where
  broken := h.broken
  expiry := h.expiry

/-- At one time, an id is taken in memory while its key is there. -/
theorem holds (h : c.Mirrors m r) (hclock : r.clock = m.now) (id : String) :
    m.holds id = (r.get? (c.key id)).isSome := by
  have hexpiry := h.expiry id
  unfold MemoryClaims.holds Redis.get?
  rw [← hexpiry]
  cases Keyed.get? r.texts (c.key id) with
  | none => rfl
  | some entry =>
    obtain ⟨text, expiry⟩ := entry
    cases expiry with
    | none => rfl
    | some deadline =>
      simp only [Option.map_some, Redis.isLive, hclock]
      cases decide (m.now < deadline) <;> rfl

/-- Both sides note the same for the id. -/
theorem noted (h : c.Mirrors m r) (id text : String) (e : Option Int) :
    c.Mirrors { m with claims := Keyed.insert id e m.claims }
      { r with texts := Keyed.insert (c.key id) (text, e) r.texts } where
  broken := h.broken
  expiry := by
    intro id'
    dsimp only
    by_cases hid : id = id'
    · subst hid
      rw [Keyed.get?_insert_self, Keyed.get?_insert_self]
      rfl
    · have hkey : c.key id ≠ c.key id' := fun heq => hid (c.key_inj heq)
      rw [Keyed.get?_insert_of_ne _ hkey, Keyed.get?_insert_of_ne _ hid]
      exact h.expiry id'

theorem forgotten (h : c.Mirrors m r) (id : String) :
    c.Mirrors (m.release id) (r.del (c.key id)) where
  broken := h.broken
  expiry := by
    intro id'
    change (Keyed.get? (Keyed.erase (c.key id) r.texts) (c.key id')).map Prod.snd =
      Keyed.get? (Keyed.erase id m.claims) id'
    by_cases hid : id = id'
    · subst hid
      rw [Keyed.get?_erase_self, Keyed.get?_erase_self]
      rfl
    · have hkey : c.key id ≠ c.key id' := fun heq => hid (c.key_inj heq)
      rw [Keyed.get?_erase_of_ne _ hkey, Keyed.get?_erase_of_ne _ hid]
      exact h.expiry id'

/-- A call at the same time on both sides. -/
theorem call (h : c.Mirrors m r) (t : Int) {call : ClaimCall} (hcall : call.InMillis) :
    (c.claimer.call call (r.atTime t)).2 = (MemoryClaims.claimer.call call (m.atTime t)).2 ∧
      c.Mirrors (MemoryClaims.claimer.call call (m.atTime t)).1 (c.claimer.call call (r.atTime t)).1 := by
  have hnow := h.atTime t
  cases call with
  | release id =>
    have hcalled : c.claimer.call (.release id) (r.atTime t) =
        ((r.atTime t).del (c.key id), .released none) := by
      simp only [Claimer.call, claimer, release_eq hnow.broken]
    rw [hcalled]
    exact ⟨rfl, hnow.forgotten id⟩
  | claim id ttl =>
    have hholds := hnow.holds (m.atTime_now t).symm id
    simp only [Claimer.call, claimer, MemoryClaims.claimer, claim_eq hnow.broken, ← hholds,
      MemoryClaims.claim_eq]
    cases (m.atTime t).holds id with
    | true => exact ⟨rfl, hnow⟩
    | false =>
      -- Both note when the claim expires that is made now.
      have hset := hnow.noted id "0" (MemoryClaims.expiry ttl (m.atTime t).now)
      refine ⟨rfl, ?_⟩
      rw [MemoryClaims.atTime_now, ← r.expiryOf_atTime t hcall] at hset ⊢
      exact hset

/-- Histories at the same times on both sides. -/
theorem answers (h : c.Mirrors m r) {calls : ClaimHistory} (hcalls : ∀ e ∈ calls, e.2.InMillis) :
    c.claimer.answers Redis.atTime calls r =
      MemoryClaims.claimer.answers MemoryClaims.atTime calls m := by
  induction calls generalizing m r with
  | nil => rfl
  | cons e calls ih =>
    obtain ⟨hcall, hrest⟩ := List.forall_mem_cons.mp hcalls
    obtain ⟨hanswer, hafter⟩ := h.call e.1 hcall
    have htail := ih hafter hrest
    exact congrArg₂ List.cons hanswer htail

end Mirrors

/-- Claims in a server in which nothing is claimed yet, and claims in memory. Both give the same answers
to every history of calls, and the answer to each call is the one that is given after just the earlier
calls for the same id. -/
theorem claims_agree (c : RedisClaimer) {r : Redis} (hworks : r.broken = none)
    (hnew : ∀ id, Keyed.get? r.texts (c.key id) = none) {calls : ClaimHistory}
    (hcalls : ∀ e ∈ calls, e.2.InMillis) :
    c.claimer.answers Redis.atTime calls r =
        MemoryClaims.claimer.answers MemoryClaims.atTime calls {} ∧
      ∀ before e rest, calls = before ++ e :: rest →
        (c.claimer.answers Redis.atTime calls r)[before.length]? =
          some (MemoryClaims.claimer.answer MemoryClaims.atTime e
            (MemoryClaims.claimer.after MemoryClaims.atTime
              (before.filter fun e' => e'.2.id = e.2.id) {})) := by
  have hfresh : c.Mirrors {} r := by
    refine ⟨hworks, fun id => ?_⟩
    rw [hnew id]
    rfl
  have hsame := hfresh.answers hcalls
  refine ⟨hsame, ?_⟩
  intro before e rest hsplit
  have hanswer := MemoryClaims.claimer.answers_getElem? MemoryClaims.atTime before e rest {}
  rw [← hsplit] at hanswer
  rw [hsame, hanswer]
  -- Of the calls before, those for other ids have left no trace that this one could see.
  have hown : Keyed.get? (MemoryClaims.claimer.after MemoryClaims.atTime
      (before.filter fun e' => e'.2.id = e.2.id) {}).claims e.2.id =
        Keyed.get? (MemoryClaims.claimer.after MemoryClaims.atTime before {}).claims e.2.id :=
    MemoryClaims.get?_after_own before rfl
  rw [MemoryClaims.answer_congr hown]

/-- A claim for five milliseconds: nobody else gets the id in the last nanosecond, but in the next one
somebody does, for ever. It is free again when that claim is given back. Another id does not matter. -/
def handovers : ClaimHistory :=
  [(7, .claim "m1" 5000000), (5000006, .claim "m1" 5000000), (5000006, .claim "claim:m1" 0),
    (5000007, .claim "m1" 0), (9000000000, .claim "m1" (-1)), (9000000000, .release "m1"),
    (9000000000, .claim "m1" 1000000)]

theorem claims_agree_handovers :
    (claimer ⟨"weft:result:"⟩).answers Redis.atTime handovers {} =
      [.claimed (.ok true), .claimed (.ok false), .claimed (.ok true), .claimed (.ok true),
        .claimed (.ok false), .released none, .claimed (.ok true)] := by
  have hmillis : ∀ e ∈ handovers, e.2.InMillis := by
    simp [handovers, ClaimCall.InMillis]
  have hagree := (claims_agree ⟨"weft:result:"⟩ (r := {}) rfl (fun _ => rfl) hmillis).1
  rw [hagree]
  decide

end RedisClaimer
end Courier
