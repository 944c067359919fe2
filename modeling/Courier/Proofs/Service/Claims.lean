import Courier.Proofs.Keyed
import Courier.Proofs.Service.Lifecycle

/-! Claims on message ids that many callers make at once, while the clock goes on.
A claim that has expired may be taken over by another caller. Whoever made it does not see that, and
if its message is refused, gives back a claim that is no longer its own. As long as nobody does so,
messages with the same id are accepted only if the claim of the one has expired before the claim of
the other is made. -/
namespace Courier

namespace MemoryClaims

variable {c c' : MemoryClaims} {id : String} {ttl : Int}

/-- When a claim expires that is made at some time. -/
def expiry (ttl time : Int) : Option Int := if 0 < ttl then some (time + ttl) else none

/-- A claim that was made at some time has expired. -/
def Lapsed (ttl now time : Int) : Prop := 0 < ttl ∧ time + ttl ≤ now

theorem Lapsed.mono {now later time : Int} (h : Lapsed ttl now time) (hle : now ≤ later) :
    Lapsed ttl later time :=
  ⟨h.1, Int.le_trans h.2 hle⟩

/-- An id is claimed only if nobody holds it; else nothing changes. -/
theorem claim_cases {ok : Bool} (h : c.claim id ttl = (c', ok)) :
    (ok = false ∧ c' = c) ∨ (ok = true ∧ c.holds id = false ∧
      c' = { c with claims := Keyed.insert id (expiry ttl c.now) c.claims }) := by
  by_cases hholds : c.holds id = true
  · rw [claim, if_pos hholds] at h
    cases h
    exact .inl ⟨rfl, rfl⟩
  · rw [claim, if_neg hholds] at h
    cases h
    exact .inr ⟨rfl, Bool.eq_false_iff.mpr hholds, rfl⟩

/-- A claim on an id that nobody holds has expired. -/
theorem lapsed_of_holds {time : Int} (h : Keyed.get? c.claims id = some (expiry ttl time))
    (hfree : c.holds id = false) : Lapsed ttl c.now time := by
  unfold holds at hfree
  rw [h, expiry] at hfree
  split_ifs at hfree with httl
  · exact ⟨httl, Int.not_lt.mp (of_decide_eq_false hfree)⟩

end MemoryClaims

namespace Concurrent

variable {τ : Type} {cs : List (Call τ)} {i : Nat} {c : Call τ}

/-- A message that has claimed its id and has not given it back. -/
def Stage.holds : Stage → Bool
  | .claimed _ => true
  | .refused _ => true
  | .queued _ => true
  | .accepted _ => true
  | _ => false

/-- The id that a message with this number has claimed and not given back. -/
def held (cs : List (Call τ)) (i : Nat) : Option String :=
  cs[i]?.bind fun c => if c.stage.holds then some c.message.id else none

theorem held_of_getElem? (hc : cs[i]? = some c) :
    held cs i = if c.stage.holds then some c.message.id else none := by
  rw [held, hc, Option.bind_some]

theorem held_append (cs : List (Call τ)) (m : Message) (r : Option (Responder τ)) :
    held (cs ++ [⟨m, r, .arrived⟩]) = held cs :=
  bind_getElem?_concat cs rfl

theorem held_set (hc : cs[i]? = some c) (stage : Stage) :
    held (cs.set i { c with stage }) =
      Function.update (held cs) i (if stage.holds then some c.message.id else none) :=
  bind_getElem?_set _ hc _

/-- A message that comes further without claiming or giving back. -/
theorem held_set_eq (hc : cs[i]? = some c) {stage : Stage} (h : stage.holds = c.stage.holds) :
    held (cs.set i { c with stage }) = held cs := by
  rw [held_set hc, h, ← held_of_getElem? hc, Function.update_eq_self]

/-- A message that was taken holds its id. -/
theorem held_of_taken (hc : cs[i]? = some c) (htaken : c.stage.taken.isSome) :
    held cs i = some c.message.id := by
  rw [held_of_getElem? hc]
  cases hstage : c.stage with
  | queued | accepted => rfl
  | arrived | resolved | claimed | refused | rejected =>
    rw [hstage] at htaken
    cases htaken

/-- Ids are claimed in memory, each for the same time. -/
def claiming (fresh : MemoryClaims → String) (ttl : Int) : Admission MemoryClaims where
  freshId w := (fresh w, w)
  claims := some (MemoryClaims.claimer, ttl)

/-- The claims that there are. -/
def State.claims (s : State MemoryClaims) : MemoryClaims := s.outside.shared.world

variable {fresh : MemoryClaims → String} {ttl : Int} {k : Conduct} {s s' : State MemoryClaims}

theorem claim_claiming {id : String} {l l' : Ledger MemoryClaims}
    (h : (recorded (claiming fresh ttl)).claim id l = (l', .ok ())) :
    l.world.claim id ttl = (l'.world, true) := by
  cases hclaim : l.world.claim id ttl with
  | mk w ok =>
    simp only [Admission.claim, recorded, claiming, Option.map_some, Claimer.focus,
      MemoryClaims.claimer, hclaim] at h
    cases ok with
    | false => cases h
    | true =>
      cases h
      rfl

/-- What a step can do to the ids that messages hold. -/
inductive Holding (ttl : Int) (s s' : State MemoryClaims) : Prop
  | still (hheld : held s'.calls = held s.calls)
  | claimed {i : Nat} {id : String} (hfree : held s.calls i = none)
      (hheld : held s'.calls = Function.update (held s.calls) i (some id))
      (hclaim : s.claims.claim id ttl = (s'.claims, true))
  | released {i : Nat} {id : String} (hhold : held s.calls i = some id)
      (hheld : held s'.calls = Function.update (held s.calls) i none)
      (hrelease : s'.claims = s.claims.release id)

theorem Step.holding (h : Step (claiming fresh ttl) k s s') : Holding ttl s s' := by
  cases h with
  | arrive m r hid => exact .still (held_append ..)
  | resolve hc hstage | unresolved hc hstage | unclaimed hc hstage =>
    exact .still (held_set_eq hc (by rw [hstage]; rfl))
  | submit hc hstage | refuse hc hstage | accept hc hstage =>
    exact .still (held_set_eq hc (by rw [hstage]; rfl))
  | @claim i c p l hc hstage hclaim =>
    have hfree : held s.calls i = none := by rw [held_of_getElem? hc, hstage]; rfl
    exact .claimed hfree (held_set hc _) (claim_claiming hclaim)
  | @release i c f l failed hc hstage hrelease =>
    have hhold : held s.calls i = some c.message.id := by rw [held_of_getElem? hc, hstage]; rfl
    cases hrelease
    exact .released hhold (held_set hc _) rfl
  | register | unregister | elapse | take | run | deliver | finish | close | expire | drained =>
    exact .still rfl

/-- A service that is watched: when each message has claimed its id, and for which ids a claim in
force was given back by someone whose own claim had expired before. -/
structure Watched where
  state : State MemoryClaims
  claimedAt : Nat → Int := fun _ => 0
  late : String → Prop := fun _ => False

namespace Watched

/-- The id that a message has claimed and not given back. -/
def holds (x : Watched) (i : Nat) : Option String := held x.state.calls i

def now (x : Watched) : Int := x.state.claims.now

/-- What is noted when the service goes on: a message that holds its id now and did not before has
claimed it, and one that holds it no more has given it back. -/
def next (ttl : Int) (x : Watched) (s : State MemoryClaims) : Watched where
  state := s
  claimedAt i := if (x.holds i).isNone ∧ (held s.calls i).isSome then x.now else x.claimedAt i
  late id := x.late id ∨ (x.state.claims.holds id ∧ ∃ i, x.holds i = some id ∧
    held s.calls i = none ∧ MemoryClaims.Lapsed ttl x.now (x.claimedAt i))

/-- One step of the service that is noted. Messages alone claim ids and give them back: whatever
else goes on leaves the claims as they are, and the clock does not go back. -/
structure Step (fresh : MemoryClaims → String) (ttl : Int) (k : Conduct) (x y : Watched) :
    Prop where
  step : Concurrent.Step (claiming fresh ttl) k x.state y.state
  noted : y = x.next ttl y.state
  clock : y.holds = x.holds → ∃ d, 0 ≤ d ∧ y.state.claims = x.state.claims.advance d

def Reachable (fresh : MemoryClaims → String) (ttl : Int) (k : Conduct) (x : Watched) : Prop :=
  ∃ size w, Relation.ReflTransGen (Step fresh ttl k) { state := State.start size w } x

variable {x y : Watched} {id : String}

/-- What holds of the messages with an id as long as no claim on it was given back in place of
another: each was claimed at some time before, an unexpired claim is on record, and of two claims
the one had expired when the other was made. -/
structure Exclusive (ttl : Int) (id : String) (x : Watched) : Prop where
  past : ∀ i, x.holds i = some id → x.claimedAt i ≤ x.now
  recorded : ∀ i, x.holds i = some id → MemoryClaims.Lapsed ttl x.now (x.claimedAt i) ∨
    Keyed.get? x.state.claims.claims id = some (MemoryClaims.expiry ttl (x.claimedAt i))
  apart : ∀ i j, i ≠ j → x.holds i = some id → x.holds j = some id →
    MemoryClaims.Lapsed ttl (x.claimedAt j) (x.claimedAt i) ∨
      MemoryClaims.Lapsed ttl (x.claimedAt i) (x.claimedAt j)

theorem Exclusive.start (ttl : Int) (id : String) (size : Pool.Size) (w : MemoryClaims) :
    Exclusive ttl id { state := State.start size w } where
  past := nofun
  recorded := nofun
  apart := nofun

/-- When a message claimed its id stays on record while it holds it. -/
theorem next_claimedAt {i : Nat} (h : x.holds i = some id) (s : State MemoryClaims) :
    (x.next ttl s).claimedAt i = x.claimedAt i := by
  apply if_neg
  rw [h]
  simp

namespace Exclusive

/-- Time goes by, and nobody claims an id or gives one back. -/
theorem still (hx : Exclusive ttl id x) {s : State MemoryClaims} (hheld : held s.calls = x.holds)
    {d : Int} (hd : 0 ≤ d) (hclaims : s.claims = x.state.claims.advance d) :
    Exclusive ttl id (x.next ttl s) := by
  have hnow : x.now ≤ (x.next ttl s).now := by
    change x.now ≤ s.claims.now
    rw [hclaims]
    exact Int.le_add_of_nonneg_right hd
  have htable : (x.next ttl s).state.claims.claims = x.state.claims.claims := by
    change s.claims.claims = _
    rw [hclaims]
    rfl
  have hold {i : Nat} (hi : (x.next ttl s).holds i = some id) : x.holds i = some id := by
    rw [← hheld]
    exact hi
  constructor
  · intro i hi
    rw [next_claimedAt (hold hi)]
    exact Int.le_trans (hx.past i (hold hi)) hnow
  · intro i hi
    rw [next_claimedAt (hold hi), htable]
    exact (hx.recorded i (hold hi)).imp_left (·.mono hnow)
  · intro i j hij hi hj
    rw [next_claimedAt (hold hi), next_claimedAt (hold hj)]
    exact hx.apart i j hij (hold hi) (hold hj)

/-- All messages whose id can be claimed by another have lost it before. -/
theorem lapsed (hx : Exclusive ttl id x) (hfree : x.state.claims.holds id = false) {i : Nat}
    (hi : x.holds i = some id) : MemoryClaims.Lapsed ttl x.now (x.claimedAt i) := by
  rcases hx.recorded i hi with hlapsed | hentry
  · exact hlapsed
  · exact MemoryClaims.lapsed_of_holds hentry hfree

theorem claimed (hx : Exclusive ttl id x) {s : State MemoryClaims} {i₀ : Nat} {id₀ : String}
    (hnew : x.holds i₀ = none) (hheld : held s.calls = Function.update x.holds i₀ (some id₀))
    (hclaim : x.state.claims.claim id₀ ttl = (s.claims, true)) :
    Exclusive ttl id (x.next ttl s) := by
  obtain ⟨hfalse, -⟩ | ⟨-, hfree, hclaims⟩ := MemoryClaims.claim_cases hclaim
  · cases hfalse
  have hnow : (x.next ttl s).now = x.now := by
    change s.claims.now = _
    rw [hclaims]
    rfl
  have htime : (x.next ttl s).claimedAt i₀ = x.now := by
    apply if_pos
    rw [hnew, hheld, Function.update_self]
    exact ⟨rfl, rfl⟩
  have hother {i : Nat} (hi : (x.next ttl s).holds i = some id) (hne : i ≠ i₀) :
      x.holds i = some id := by
    have h : held s.calls i = some id := hi
    rwa [hheld, Function.update_of_ne hne] at h
  have hself (hi : (x.next ttl s).holds i₀ = some id) : id₀ = id := by
    have h : held s.calls i₀ = some id := hi
    rw [hheld, Function.update_self] at h
    exact Option.some.inj h
  constructor
  · intro i hi
    rw [hnow]
    by_cases hne : i = i₀
    · subst hne
      exact Int.le_of_eq htime
    · rw [next_claimedAt (hother hi hne)]
      exact hx.past i (hother hi hne)
  · intro i hi
    change _ ∨ Keyed.get? s.claims.claims id = _
    rw [hnow, hclaims]
    by_cases hne : i = i₀
    · subst hne
      rw [htime, ← hself hi]
      exact .inr (Keyed.get?_insert_self ..)
    · rw [next_claimedAt (hother hi hne)]
      by_cases hid : id₀ = id
      · exact .inl (hx.lapsed (hid ▸ hfree) (hother hi hne))
      · rw [Keyed.get?_insert_of_ne _ hid]
        exact hx.recorded i (hother hi hne)
  · intro i j hij hi hj
    -- Whoever holds the id beside the one that has just claimed it has lost it before.
    have hlost {i : Nat} (hi : (x.next ttl s).holds i = some id) (hne : i ≠ i₀)
        (hi₀ : (x.next ttl s).holds i₀ = some id) :
        MemoryClaims.Lapsed ttl ((x.next ttl s).claimedAt i₀) ((x.next ttl s).claimedAt i) := by
      rw [htime, next_claimedAt (hother hi hne)]
      exact hx.lapsed (hself hi₀ ▸ hfree) (hother hi hne)
    by_cases hii : i = i₀
    · subst hii
      exact .inr (hlost hj (Ne.symm hij) hi)
    · by_cases hjj : j = i₀
      · subst hjj
        exact .inl (hlost hi hij hj)
      · rw [next_claimedAt (hother hi hii), next_claimedAt (hother hj hjj)]
        exact hx.apart i j hij (hother hi hii) (hother hj hjj)

theorem released (hx : Exclusive ttl id x) {s : State MemoryClaims} {i₀ : Nat} {id₀ : String}
    (hhold : x.holds i₀ = some id₀) (hheld : held s.calls = Function.update x.holds i₀ none)
    (hclaims : s.claims = x.state.claims.release id₀)
    (hprompt : id₀ = id → MemoryClaims.Lapsed ttl x.now (x.claimedAt i₀) →
      x.state.claims.holds id = false) :
    Exclusive ttl id (x.next ttl s) := by
  have hnow : (x.next ttl s).now = x.now := by
    change s.claims.now = _
    rw [hclaims]
    rfl
  have hother {i : Nat} (hi : (x.next ttl s).holds i = some id) : i ≠ i₀ ∧ x.holds i = some id := by
    have h : held s.calls i = some id := hi
    rw [hheld] at h
    by_cases hne : i = i₀
    · rw [hne, Function.update_self] at h
      cases h
    · rw [Function.update_of_ne hne] at h
      exact ⟨hne, h⟩
  constructor
  · intro i hi
    rw [hnow, next_claimedAt (hother hi).2]
    exact hx.past i (hother hi).2
  · intro i hi
    obtain ⟨hne, hi'⟩ := hother hi
    change _ ∨ Keyed.get? s.claims.claims id = _
    rw [hnow, hclaims, next_claimedAt hi']
    by_cases hid : id₀ = id
    · subst hid
      -- Of the two claims only the one that is given back can be in force, and if that one has
      -- expired, then none is.
      rcases hx.apart i i₀ hne hi' hhold with hlapsed | hlapsed
      · exact .inl (hlapsed.mono (hx.past i₀ hhold))
      · exact .inl (hx.lapsed (hprompt rfl (hlapsed.mono (hx.past i hi'))) hi')
    · change _ ∨ Keyed.get? (Keyed.erase id₀ _) id = _
      rw [Keyed.get?_erase_of_ne _ hid]
      exact hx.recorded i hi'
  · intro i j hij hi hj
    rw [next_claimedAt (hother hi).2, next_claimedAt (hother hj).2]
    exact hx.apart i j hij (hother hi).2 (hother hj).2

/-- Every step leaves the claims on an id in order, unless it gives one back in place of another. -/
theorem step (hx : Exclusive ttl id x) (h : Step fresh ttl k x y) (hlate : ¬ y.late id) :
    Exclusive ttl id y := by
  obtain ⟨hstep, hnoted, hclock⟩ := h
  rw [hnoted] at hlate ⊢
  cases hstep.holding with
  | still hheld =>
    obtain ⟨d, hd, hclaims⟩ := hclock hheld
    exact hx.still hheld hd hclaims
  | claimed hfree hheld hclaim => exact hx.claimed hfree hheld hclaim
  | @released i id₀ hhold hheld hrelease =>
    refine hx.released hhold hheld hrelease fun hid hlapsed => ?_
    refine Bool.eq_false_iff.mpr fun hforce => hlate (.inr ⟨hforce, i, ?_, ?_, hlapsed⟩)
    · rw [← hid]
      exact hhold
    · rw [hheld, Function.update_self]

end Exclusive

theorem Reachable.exclusive (h : Reachable fresh ttl k x) (hlate : ¬ x.late id) :
    Exclusive ttl id x := by
  obtain ⟨size, w, hrun⟩ := h
  induction hrun with
  | refl => exact .start ttl id size w
  | @tail x y _ hstep ih =>
    have hbefore : ¬ x.late id := by
      intro hx
      rw [hstep.noted] at hlate
      exact hlate (.inl hx)
    exact (ih hbefore).step hstep hlate

/-- A claim without a positive time never expires, so none is given back in place of another. -/
theorem Reachable.ttl_pos (h : Reachable fresh ttl k x) (hlate : x.late id) : 0 < ttl := by
  obtain ⟨size, w, hrun⟩ := h
  induction hrun with
  | refl => cases hlate
  | tail _ hstep ih =>
    rw [hstep.noted] at hlate
    rcases hlate with hlate | ⟨-, i, -, -, hlapsed⟩
    · exact ih hlate
    · exact hlapsed.1

/-! ### The same message, brought several times -/

theorem Reachable.start (fresh : MemoryClaims → String) (ttl : Int) (k : Conduct)
    (size : Pool.Size) (w : MemoryClaims) : Reachable fresh ttl k { state := State.start size w } :=
  ⟨size, w, .refl⟩

theorem Reachable.step {s : State MemoryClaims} (h : Reachable fresh ttl k x)
    (hstep : Concurrent.Step (claiming fresh ttl) k x.state s)
    (hclock : held s.calls = x.holds → ∃ d, 0 ≤ d ∧ s.claims = x.state.claims.advance d) :
    Reachable fresh ttl k (x.next ttl s) := by
  obtain ⟨size, w, hrun⟩ := h
  exact ⟨size, w, hrun.tail ⟨hstep, rfl, hclock⟩⟩

/-- A step that leaves the clock and the claims as they are. -/
theorem Reachable.step_quiet {s : State MemoryClaims} (h : Reachable fresh ttl k x)
    (hstep : Concurrent.Step (claiming fresh ttl) k x.state s)
    (hclaims : s.claims = x.state.claims) : Reachable fresh ttl k (x.next ttl s) := by
  refine h.step hstep fun _ => ⟨0, Int.le_refl 0, ?_⟩
  rw [hclaims, MemoryClaims.advance, Int.add_zero]

/-- The state of a service that is watched, as it is written. -/
theorem Reachable.settle (h : Reachable fresh ttl k x) {s : State MemoryClaims} (hs : x.state = s) :
    Reachable fresh ttl k { x with state := s } := by
  subst hs
  exact h

/-- Every program is run as it should be. -/
def ordinary : Conduct where
  engine _ := {}
  keeps _ := Visitor.standard_keeps

/-- A program of one reply. -/
def greet : Program :=
  ⟨"greet", "", some ⟨[some (.reply 0 0 noNode)],
    [⟨0, .reply, "", .empty, .empty, ⟨"", 0⟩⟩], 0⟩, none⟩

/-- Someone who brings the message. -/
def bringer (stage : Stage) : Call MemoryClaims :=
  ⟨⟨"m1", greet.name, none, none⟩, some fun _ w => (w, .done), stage⟩

/-- A service to which the message was brought several times. -/
def brought (w : MemoryClaims) (pool : Pool (Task MemoryClaims)) (stages : List Stage) :
    State MemoryClaims where
  registry := [(greet.name, greet)]
  outside := { shared := ⟨w, []⟩ }
  pool := pool
  calls := stages.map bringer

theorem reachable_brought (size : Pool.Size) : ∃ x, Reachable (fun _ => "") 10 ordinary x ∧
    x.state = brought {} { size } [.resolved greet, .resolved greet, .resolved greet] := by
  obtain ⟨x, hx, hs⟩ : ∃ x, Reachable (fun _ => "") 10 ordinary x ∧
      x.state = brought {} { size } [.arrived, .arrived, .arrived] :=
    ⟨_, Reachable.start (fun _ => "") 10 ordinary size {}
      |>.step_quiet (.register (p := some greet) rfl) rfl
      |>.step_quiet (.arrive (bringer .arrived).message (bringer .arrived).responder rfl) rfl
      |>.step_quiet (.arrive (bringer .arrived).message (bringer .arrived).responder rfl) rfl
      |>.step_quiet (.arrive (bringer .arrived).message (bringer .arrived).responder rfl) rfl, rfl⟩
  exact ⟨_, hx.settle hs
    |>.step_quiet (.resolve (i := 0) rfl rfl rfl) rfl
    |>.step_quiet (.resolve (i := 1) rfl rfl rfl) rfl
    |>.step_quiet (.resolve (i := 2) rfl rfl rfl) rfl, rfl⟩

/-- If two messages with the same id are both accepted, then claims expire, and the claim of the one
had expired when the other made its own, unless somebody whose own claim on that id had expired gave
back the one that was then in force. If claims do not expire, an id is thus accepted only once. -/
theorem accepted_apart (h : Reachable fresh ttl k x) {i j : Nat} {c d : Call MemoryClaims}
    (hij : i ≠ j) (hc : x.state.calls[i]? = some c) (hd : x.state.calls[j]? = some d)
    (hid : c.message.id = d.message.id) (hci : c.stage.taken.isSome) (hdj : d.stage.taken.isSome) :
    0 < ttl ∧ (x.late c.message.id ∨
      x.claimedAt i + ttl ≤ x.claimedAt j ∨ x.claimedAt j + ttl ≤ x.claimedAt i) := by
  by_cases hlate : x.late c.message.id
  · exact ⟨h.ttl_pos hlate, .inl hlate⟩
  · have hi : x.holds i = some c.message.id := held_of_taken hc hci
    have hj : x.holds j = some c.message.id := by
      rw [hid]
      exact held_of_taken hd hdj
    rcases (h.exclusive hlate).apart i j hij hi hj with hlapsed | hlapsed
    · exact ⟨hlapsed.1, .inr (.inl hlapsed.2)⟩
    · exact ⟨hlapsed.1, .inr (.inr hlapsed.2)⟩

/-- The second of two messages claims the id when the claim of the first expires. -/
theorem accepted_apart_expired : ∃ x : Watched, Reachable (fun _ => "") 10 ordinary x ∧
    x.claimedAt 0 = 0 ∧ x.claimedAt 1 = 10 ∧ (0 < (10 : Int) ∧ (x.late "m1" ∨
      x.claimedAt 0 + 10 ≤ x.claimedAt 1 ∨ x.claimedAt 1 + 10 ≤ x.claimedAt 0)) := by
  obtain ⟨x, hx, hs⟩ := reachable_brought ⟨1, 2⟩
  obtain ⟨x, hx, hs, hfirst⟩ : ∃ x, Reachable (fun _ => "") 10 ordinary x ∧
      x.state = brought ⟨10, [("m1", some 10)]⟩
        { size := ⟨1, 2⟩
          queue := [(bringer .arrived).task 0 greet]
          counters := { submitted := 1 } }
        [.queued greet, .resolved greet, .resolved greet] ∧ x.claimedAt 0 = 0 :=
    ⟨_, hx.settle hs
      |>.step (.claim (i := 0) rfl rfl rfl) (fun h => nomatch congrFun h 0)
      |>.step_quiet (.submit (i := 0) rfl rfl rfl) rfl
      |>.step (.elapse ⟨10, [("m1", some 10)]⟩) (fun _ => ⟨10, by decide, rfl⟩), rfl, rfl⟩
  have h := hx.settle hs
    |>.step (.claim (i := 1) rfl rfl rfl) (fun h => nomatch congrFun h 1)
    |>.step_quiet (.submit (i := 1) rfl rfl rfl) rfl
  exact ⟨_, h, hfirst, rfl, accepted_apart h (i := 0) (j := 1) (by decide) rfl rfl rfl rfl rfl⟩

/-- The claim of the first message expires, and the second claims the id and is taken. Then the
first is refused, for the queue is full, and gives back what is now the claim of the second: the
third claims the id one tick after the second did, and is taken too. -/
theorem accepted_apart_released : ¬ ∀ x, Reachable (fun _ => "") 10 ordinary x →
    ∀ (i j : Nat) (c d : Call MemoryClaims), i ≠ j → x.state.calls[i]? = some c →
      x.state.calls[j]? = some d → c.message.id = d.message.id → c.stage.taken.isSome →
      d.stage.taken.isSome →
      x.claimedAt i + 10 ≤ x.claimedAt j ∨ x.claimedAt j + 10 ≤ x.claimedAt i := by
  intro hall
  obtain ⟨x, hx, hs⟩ := reachable_brought ⟨1, 1⟩
  obtain ⟨x, hx, hs, hsecond⟩ : ∃ x, Reachable (fun _ => "") 10 ordinary x ∧
      x.state = brought ⟨10, [("m1", some 20)]⟩ { size := ⟨1, 1⟩ }
        [.claimed greet, .claimed greet, .resolved greet] ∧ x.claimedAt 1 = 10 :=
    ⟨_, hx.settle hs
      |>.step (.claim (i := 0) rfl rfl rfl) (fun h => nomatch congrFun h 0)
      |>.step (.elapse ⟨10, [("m1", some 10)]⟩) (fun _ => ⟨10, by decide, rfl⟩)
      |>.step (.claim (i := 1) rfl rfl rfl) (fun h => nomatch congrFun h 1), rfl, rfl⟩
  obtain ⟨x, hx, hs, hsecond⟩ : ∃ x, Reachable (fun _ => "") 10 ordinary x ∧
      x.state = brought ⟨10, [("m1", some 20)]⟩
        { size := ⟨1, 1⟩
          running := [(bringer .arrived).task 1 greet]
          counters := { submitted := 1, saturated := 1 } }
        [.refused Pool.SubmitError.saturated.fault, .queued greet, .resolved greet] ∧
      x.claimedAt 1 = 10 :=
    ⟨_, hx.settle hs
      |>.step_quiet (.submit (i := 1) rfl rfl rfl) rfl
      |>.step_quiet (.refuse (i := 0) rfl rfl rfl) rfl
      |>.step_quiet (.take rfl) rfl, rfl, hsecond⟩
  have h := hx.settle hs
    |>.step (.release (i := 0) rfl rfl rfl) (fun h => nomatch congrFun h 0)
    |>.step (.elapse ⟨11, []⟩) (fun _ => ⟨1, by decide, rfl⟩)
    |>.step (.claim (i := 2) rfl rfl rfl) (fun h => nomatch congrFun h 2)
    |>.step_quiet (.submit (i := 2) rfl rfl rfl) rfl
  rcases hall _ h 1 2 _ _ (by decide) rfl rfl rfl rfl rfl with hapart | hapart
  · have hapart' : x.claimedAt 1 + 10 ≤ 11 := hapart
    omega
  · have hapart' : 11 + 10 ≤ x.claimedAt 1 := hapart
    omega

end Watched

end Concurrent
end Courier
