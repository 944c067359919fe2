import Courier.Proofs.Pool.Handle

/-! The one pool of a handle that many use at once. Whatever the order of the calls, a pool is built at most
once and everybody gets the same, and after a shutdown has returned nothing is left to run and nothing
more is taken.
A call that has passed by the chance to build finds the cells as they will stay: nobody builds any more,
and if there is a pool, all that can happen happens in it. -/
namespace Courier.Pool

namespace Shared

variable {size : Size} {p p' : Shared}

/-- The answer of a pool that is closed. -/
def refusal (given : Bool) : SubmitError := if given then .closed else .noUnit

theorem Step.length_le (h : Step p p') : p.calls.length ≤ p'.calls.length := by
  by_contra hlt
  obtain ⟨d, hd⟩ : ∃ d, p.calls[p'.calls.length]? = some d :=
    ⟨_, List.getElem?_eq_getElem (Nat.lt_of_not_le hlt)⟩
  obtain ⟨d', hd', -⟩ := h.grows.1 _ d hd
  exact absurd (List.getElem?_eq_some_iff.mp hd').1 (Nat.lt_irrefl _)

theorem Step.terminated (h : Step p p') (hended : p.pool.state = .terminated) :
    p'.pool.state = .terminated := by
  have hmoves := h.moves
  generalize p'.pool.state = state at hmoves ⊢
  rw [hended] at hmoves
  cases hmoves
  rfl

theorem Step.accepted_of_terminated (h : Step p p') (hworkers : 0 < size.workers)
    (horder : Orderly size p) (hended : p.pool.state = .terminated) : p'.accepted = p.accepted := by
  have horder' := horder.step hworkers h
  -- A pool that has ended is empty, and a unit that it took would still be there.
  obtain ⟨hqueue, hrunning⟩ := horder'.idle hworkers (horder'.ended (h.terminated hended))
  have hunits : p'.pool.units = [] := by rw [units, hqueue, hrunning]; rfl
  cases h.effect horder with
  | took hperm =>
    rw [hunits] at hperm
    cases hperm.symm.eq_nil
  | still _ haccepted => exact haccepted
  | refused _ haccepted => exact haccepted
  | began _ _ _ haccepted => exact haccepted
  | ended _ _ haccepted => exact haccepted

/-- The calls from some number on were refused, as far as they have returned. -/
def Refuses (n : Nat) (p : Shared) : Prop :=
  ∀ (k : Nat) (given : Bool) (reply : Option SubmitError), n ≤ k →
    p.calls[k]? = some ⟨given, .returned reply⟩ → reply = some (refusal given)

theorem Step.refuses {n : Nat} (h : Step p p') (horder : Orderly size p)
    (hclosed : p.pool.state ≠ .active) (hrefuses : Refuses n p) : Refuses n p' := by
  -- A call that comes further without its answer, or with one that is right, changes nothing.
  have hset {i : Nat} {d : Submission}
      (hd : ∀ reply, d.stage = .returned reply → reply = some (refusal d.given)) :
      ∀ (k : Nat) (given : Bool) (reply : Option SubmitError), n ≤ k →
        (p.calls.set i d)[k]? = some ⟨given, .returned reply⟩ → reply = some (refusal given) := by
    intro k given reply hk hc
    rw [List.getElem?_set] at hc
    split_ifs at hc
    · cases hc
      exact hd reply rfl
    · exact hrefuses k given reply hk hc
  cases h with
  | work hwork => cases hwork <;> exact hrefuses
  | exit | close | expire | depart => exact hrefuses
  | call =>
    intro k given reply hk hc
    rw [List.getElem?_append] at hc
    split_ifs at hc
    · exact hrefuses k given reply hk hc
    · rw [List.getElem?_singleton] at hc
      split_ifs at hc
      cases hc
  | missing _ hsubmit =>
    cases hsubmit
    apply hset
    rintro reply ⟨⟩
    rfl
  | enter | answer => exact hset nofun
  | @leave i answer hc =>
    apply hset
    rintro reply ⟨⟩
    -- What the call was told when it had the lock is still so.
    have hfits : answer = some .closed ↔ p.pool.state ≠ .active := horder.fits _ (List.mem_of_getElem? hc)
    exact hfits.mpr hclosed

/-- What becomes of a pool from which somebody has returned that shut it down. -/
theorem Reachable.after_return {q : Shared} (hworkers : 0 < size.workers) (h : Reachable size p)
    (hreturned : 0 < p.returned) (hsteps : Relation.ReflTransGen Step p q) :
    q.accepted = p.accepted ∧ q.finished.Perm q.accepted ∧ p.calls.length ≤ q.calls.length ∧
      Refuses p.calls.length q := by
  have hended : p.pool.state = .terminated := (h.invariant hworkers).1.returned hreturned
  have hend : Reachable size q ∧ q.pool.state = .terminated ∧ q.accepted = p.accepted ∧
      p.calls.length ≤ q.calls.length ∧ Refuses p.calls.length q := by
    induction hsteps with
    | refl =>
      refine ⟨h, hended, rfl, Nat.le_refl _, fun k given reply hk hc => ?_⟩
      exact absurd (List.getElem?_eq_some_iff.mp hc).1 (Nat.not_lt.mpr hk)
    | tail _ hstep ih =>
      obtain ⟨hreach, hstate, haccepted, hlength, hrefuses⟩ := ih
      have horder := (hreach.invariant hworkers).1
      refine ⟨hreach.tail hstep, hstep.terminated hstate, ?_, Nat.le_trans hlength hstep.length_le, ?_⟩
      · rw [hstep.accepted_of_terminated hworkers horder hstate, haccepted]
      · exact hstep.refuses horder (by rw [hstate]; nofun) hrefuses
  obtain ⟨hreach, hstate, haccepted, hlength, hrefuses⟩ := hend
  obtain ⟨horder, haccounts⟩ := hreach.invariant hworkers
  obtain ⟨hqueue, hrunning⟩ := horder.idle hworkers (horder.ended hstate)
  have hunits : q.pool.units = [] := by rw [units, hqueue, hrunning]; rfl
  exact ⟨haccepted, (haccounts.of_units_eq_nil hunits).1, hlength, hrefuses⟩

/-- A call without a unit never has the lock. -/
theorem Reachable.locks_of_missing (h : Reachable size p) :
    ∀ c ∈ p.calls, c.given = false → c.stage.locks = false := by
  induction h with
  | refl => nofun
  | @tail q q' _ hstep ih =>
    have hset {i : Nat} {d : Submission} (hd : d.given = false → d.stage.locks = false) :
        ∀ c ∈ q.calls.set i d, c.given = false → c.stage.locks = false := by
      intro c hc
      rcases List.mem_or_eq_of_mem_set hc with hc | rfl
      · exact ih c hc
      · exact hd
    cases hstep with
    | work hwork => cases hwork <;> exact ih
    | exit | close | expire | depart => exact ih
    | call given =>
      intro c hc
      rcases List.mem_append.mp hc with hc | hc
      · exact ih c hc
      · cases List.mem_singleton.mp hc
        exact fun _ => rfl
    | missing => exact hset fun _ => rfl
    | enter | answer | leave => exact hset nofun

/-- A call can always come to its end, without anybody else. -/
theorem Reachable.exists_returned (h : Reachable size p) {k : Nat} {c : Submission}
    (hc : p.calls[k]? = some c) :
    ∃ q reply, Relation.ReflTransGen Quiet p q ∧ q.calls[k]? = some ⟨c.given, .returned reply⟩ := by
  have hk := (List.getElem?_eq_some_iff.mp hc).1
  obtain ⟨given, stage⟩ := c
  cases stage with
  | waiting => exact ⟨_, _, quiet_submit hc, List.getElem?_set_self hk⟩
  | returned reply => exact ⟨p, reply, .refl, hc⟩
  | inside seen =>
    cases given with
    | false => cases h.locks_of_missing _ (List.mem_of_getElem? hc) rfl
    | true => exact ⟨_, _, quiet_answer hc, List.getElem?_set_self hk⟩
  | answered reply =>
    cases given with
    | false => cases h.locks_of_missing _ (List.mem_of_getElem? hc) rfl
    | true => exact ⟨_, _, quiet_leave hc, List.getElem?_set_self hk⟩

end Shared

namespace Handle

variable {size : Size} {s s' : Handle}

/-- The chance is spent, and since then the cells have changed in nothing but what happens in the pool. -/
structure Follows (s s' : Handle) : Prop where
  chance : s'.chance = s.chance
  builds : s'.builds = s.builds
  absent : s.pool = none → s'.pool = none
  present : ∀ b p, s.pool = some (b, p) →
    ∃ p', s'.pool = some (b, p') ∧ Relation.ReflTransGen Shared.Step p p'

theorem Follows.refl (s : Handle) : Follows s s := ⟨rfl, rfl, id, fun _ p hp => ⟨p, hp, .refl⟩⟩

theorem Follows.trans {s'' : Handle} (h : Follows s s') (h' : Follows s' s'') : Follows s s'' where
  chance := h'.chance.trans h.chance
  builds := h'.builds.trans h.builds
  absent hnone := h'.absent (h.absent hnone)
  present b p hp := by
    obtain ⟨p', hp', hsteps⟩ := h.present b p hp
    obtain ⟨p'', hp'', hsteps'⟩ := h'.present b p' hp'
    exact ⟨p'', hp'', hsteps.trans hsteps'⟩

theorem Step.follows (h : Step s s') (hs : Consistent size s) (hspent : s.Spent) : Follows s s' := by
  obtain ⟨j, hj⟩ := hspent
  -- Nobody has the chance any more.
  have hnobody {i : Nat} (hi : s.chance = .taken i) : Follows s s' := by
    cases hj.symm.trans hi
  have hmove {b : Nat} {p p' : Shared} {cs : List Call} (hpool : s.pool = some (b, p))
      (hstep : Shared.Step p p') : Follows s { s with pool := some (b, p'), calls := cs } := by
    refine ⟨rfl, rfl, fun hnone => ?_, fun b' q hq => ?_⟩
    · cases hpool.symm.trans hnone
    · cases hpool.symm.trans hq
      exact ⟨p', rfl, .single hstep⟩
  cases h with
  | win _ hfresh => cases hj.symm.trans hfresh
  | decline hc | build hc | publish hc | leave hc => exact hnobody (hs.fits _ _ hc).1
  | come | pass | miss | receive | reply | find => exact ⟨rfl, rfl, id, fun b p hp => ⟨p, hp, .refl⟩⟩
  | hand _ hpool => exact hmove hpool (.call _)
  | bring given _ hpool => exact hmove hpool (.call given)
  | close _ hpool hfree => exact hmove hpool (.close hfree)
  | depart _ hpool hcloser hdone => exact hmove hpool (.depart hcloser hdone)
  | inside hpool hquiet => exact hmove hpool hquiet.1

theorem Leads.follows (h : Leads s s') (hs : Consistent size s) (hspent : s.Spent) : Follows s s' := by
  induction h with
  | refl => exact .refl s
  | @tail t t' hleads hstep ih =>
    have hspent' : t.Spent := by
      obtain ⟨j, hj⟩ := hspent
      exact ⟨j, ih.chance.trans hj⟩
    exact ih.trans (hstep.follows (hs.leads hleads) hspent')

/-- Whether a call has come to its end. -/
def Progress.ended : Progress → Bool
  | .got _ | .answered _ | .done => true
  | _ => false

theorem exists_ended_of_handing (hs : Consistent size s) {i k : Nat} {purpose : Purpose}
    (hc : s.calls[i]? = some ⟨purpose, .handing k⟩) :
    ∃ s' reply, Leads s s' ∧ s'.calls[i]? = some ⟨purpose, .answered reply⟩ := by
  have hi := (List.getElem?_eq_some_iff.mp hc).1
  obtain ⟨-, b, p, d, hpool, hd, -⟩ := hs.fits _ _ hc
  -- The pool answers, and the answer is handed on.
  obtain ⟨q, reply, hsteps, hq⟩ := (hs.pool b p hpool).exists_returned hd
  refine ⟨_, reply, (leads_inside hpool hsteps).tail (.reply hc rfl hq), ?_⟩
  exact List.getElem?_set_self hi

theorem exists_ended_of_passed {i : Nat} {purpose : Purpose} (hs : Consistent size s)
    (hc : s.calls[i]? = some ⟨purpose, .passed⟩) (hpurpose : purpose ≠ .shutdown) :
    ∃ s' progress, Leads s s' ∧ s'.calls[i]? = some ⟨purpose, progress⟩ ∧ progress.ended = true := by
  have hi := (List.getElem?_eq_some_iff.mp hc).1
  have hself {d : Call} : (s.calls.set i d)[i]? = some d := List.getElem?_set_self hi
  cases hpool : s.pool with
  | none =>
    refine ⟨_, _, .single (.miss hc hpool), hself, ?_⟩
    rw [if_neg hpurpose]
    rfl
  | some built =>
    cases purpose with
    | get => exact ⟨_, _, .single (.receive hc hpool), hself, rfl⟩
    | submit given =>
      have hhand := Step.hand hc hpool
      obtain ⟨s', reply, hleads, hend⟩ := exists_ended_of_handing (hs.step hhand) hself
      exact ⟨s', _, .head hhand hleads, hend, rfl⟩
    | shutdown => exact absurd rfl hpurpose

/-- Once the chance is spent, a call can always come to its end, without anybody else. -/
theorem exists_ended {i : Nat} {c : Call} (hs : Consistent size s) (hspent : s.Spent)
    (hc : s.calls[i]? = some c) (hpurpose : c.purpose ≠ .shutdown) :
    ∃ s' progress, Leads s s' ∧ s'.calls[i]? = some ⟨c.purpose, progress⟩ ∧ progress.ended = true := by
  obtain ⟨purpose, progress⟩ := c
  have hfits := hs.fits _ _ hc
  obtain ⟨j, hj⟩ := hspent
  have hnobody {P : Prop} (hi : s.chance = .taken i) : P := by
    cases hj.symm.trans hi
  cases progress with
  | waiting =>
    have hi := (List.getElem?_eq_some_iff.mp hc).1
    have hpass := Step.pass hc hj
    obtain ⟨s', progress, hleads, hend⟩ :=
      exists_ended_of_passed (hs.step hpass) (List.getElem?_set_self hi) hpurpose
    exact ⟨s', progress, .head hpass hleads, hend⟩
  | deciding | building | leaving => exact hnobody hfits.1
  | passed => exact exists_ended_of_passed hs hc hpurpose
  | handing k =>
    obtain ⟨s', reply, hleads, hend⟩ := exists_ended_of_handing hs hc
    exact ⟨s', _, hleads, hend, rfl⟩
  | closing | draining => exact absurd hfits.2 hpurpose
  | got | answered | done => exact ⟨s, _, .refl, hc, rfl⟩

/-! Nobody builds once a shutdown has had the chance. -/

theorem Settled.builds_le {i : Nat} (h : s.Settled i) : s.builds.length ≤ 1 := by
  rcases h with ⟨hbuilds, -⟩ | ⟨hbuilds, -⟩ <;> simp [hbuilds]

theorem Step.purpose {i : Nat} {c : Call} (h : Step s s') (hc : s.calls[i]? = some c) :
    ∃ c', s'.calls[i]? = some c' ∧ c'.purpose = c.purpose := by
  have hset {j : Nat} {d e : Call} (hd : s.calls[j]? = some d) (he : e.purpose = d.purpose) :
      ∃ c', (s.calls.set j e)[i]? = some c' ∧ c'.purpose = c.purpose := by
    by_cases hij : j = i
    · subst hij
      cases hd.symm.trans hc
      exact ⟨e, List.getElem?_set_self (List.getElem?_eq_some_iff.mp hd).1, he⟩
    · exact ⟨c, by rw [List.getElem?_set_ne hij, hc], rfl⟩
  cases h with
  | come =>
    refine ⟨c, ?_, rfl⟩
    rw [List.getElem?_append_left (List.getElem?_eq_some_iff.mp hc).1, hc]
  | bring | inside => exact ⟨c, hc, rfl⟩
  | win hd | pass hd | decline hd | build hd | publish hd | leave hd | miss hd | receive hd | hand hd
  | reply hd | find hd | close hd | depart hd => exact hset hd rfl

/-- A call has, or has had, the chance to build. -/
def Had (s : Handle) (i : Nat) : Prop := s.chance = .taken i ∨ s.chance = .spent i

theorem Step.had {i : Nat} (h : Step s s') (hs : Consistent size s) (hhad : s.Had i) : s'.Had i := by
  cases h with
  | win _ hfresh =>
    rcases hhad with htaken | hspent
    · cases hfresh.symm.trans htaken
    · cases hfresh.symm.trans hspent
  | leave hc =>
    have hchance := (hs.fits _ _ hc).1
    rcases hhad with htaken | hspent
    · cases hchance.symm.trans htaken
      exact .inr rfl
    · cases hchance.symm.trans hspent
  | come | pass | decline | build | publish | miss | receive | hand | reply | bring | find | close
  | depart | inside => exact hhad

/-- Whoever has the chance has begun to build no pool but one, and a shutdown none. -/
theorem Fits.of_holds {i : Nat} {c : Call} (h : s.Fits i c) (hholds : c.progress.holds = true) :
    s.builds.length ≤ 1 ∧ (c.purpose = .shutdown → s.Settled i ∧ s.builds = []) := by
  obtain ⟨purpose, progress⟩ := c
  cases progress with
  | deciding | building =>
    obtain ⟨-, hpurpose, hbuilds, -⟩ := h
    exact ⟨by simp [hbuilds], fun hshut => absurd hshut hpurpose⟩
  | leaving =>
    obtain ⟨-, hsettled, hshut⟩ := h
    exact ⟨hsettled.builds_le, fun hpurpose => ⟨hsettled, hshut hpurpose⟩⟩
  | waiting | passed | handing | closing | draining | got | answered | done => cases hholds

/-- A shutdown that has had the chance has built nothing. -/
theorem Consistent.of_had {i : Nat} {c : Call} (hs : Consistent size s) (hhad : s.Had i)
    (hc : s.calls[i]? = some c) (hshut : c.purpose = .shutdown) : s.builds = [] ∧ s.pool = none := by
  have hsettled : s.Settled i ∧ s.builds = [] := by
    rcases hhad with htaken | hspent
    · obtain ⟨d, hd, hholds⟩ := hs.taken i htaken
      cases hc.symm.trans hd
      exact ((hs.fits i c hc).of_holds hholds).2 hshut
    · obtain ⟨hsettled, d, hd, hbuilds⟩ := hs.spent i hspent
      cases hc.symm.trans hd
      exact ⟨hsettled, hbuilds hshut⟩
  obtain ⟨⟨-, hnone⟩ | ⟨hone, -⟩, hbuilds⟩ := hsettled
  · exact ⟨hbuilds, hnone⟩
  · cases hbuilds.symm.trans hone

theorem Leads.of_had {i : Nat} {c : Call} (h : Leads s s') (hs : Consistent size s) (hhad : s.Had i)
    (hc : s.calls[i]? = some c) (hshut : c.purpose = .shutdown) : s'.builds = [] ∧ s'.pool = none := by
  have hstays : s'.Had i ∧ ∃ c', s'.calls[i]? = some c' ∧ c'.purpose = .shutdown := by
    induction h with
    | refl => exact ⟨hhad, c, hc, hshut⟩
    | tail hleads hstep ih =>
      obtain ⟨hhad, d, hd, hpurpose⟩ := ih
      obtain ⟨d', hd', hsame⟩ := hstep.purpose hd
      exact ⟨hstep.had (hs.leads hleads) hhad, d', hd', hsame.trans hpurpose⟩
  obtain ⟨hhad', c', hc', hshut'⟩ := hstays
  exact (hs.leads h).of_had hhad' hc' hshut'

theorem Consistent.builds_le (hs : Consistent size s) : s.builds.length ≤ 1 := by
  cases hchance : s.chance with
  | fresh => simp [(hs.fresh hchance).1]
  | spent i => exact (hs.spent i hchance).1.builds_le
  | taken i =>
    obtain ⟨c, hc, hholds⟩ := hs.taken i hchance
    exact ((hs.fits i c hc).of_holds hholds).1

/-! What happens after a shutdown has returned. -/

/-- The units that the pool has taken, by the numbers of its calls, and those that are finished. -/
def accepted (s : Handle) : List Nat := s.pool.elim [] fun built => built.2.accepted

def finished (s : Handle) : List Nat := s.pool.elim [] fun built => built.2.finished

/-- The answer of a handle that is closed: without a pool there is nobody who looks at the unit. -/
def refusal (s : Handle) (given : Bool) : SubmitError :=
  s.pool.elim .closed fun _ => Shared.refusal given

theorem Follows.refusal (h : Follows s s') : s'.refusal = s.refusal := by
  funext given
  cases hpool : s.pool with
  | none => rw [Handle.refusal, Handle.refusal, h.absent hpool, hpool]
  | some built =>
    obtain ⟨p', hpool', -⟩ := h.present built.1 built.2 hpool
    rw [Handle.refusal, Handle.refusal, hpool', hpool]
    rfl

/-- What a call is told that is refused. -/
def Purpose.refusal (refusal : Bool → SubmitError) : Purpose → SubmitError
  | .submit given => refusal given
  | _ => .closed

/-- What is so for a call that has come late: it goes to the pool under a late number, and is refused. -/
def Late (refusal : Bool → SubmitError) (n : Nat) : Call → Prop
  | ⟨_, .handing k⟩ => n ≤ k
  | ⟨purpose, .answered reply⟩ => reply = some (purpose.refusal refusal)
  | _ => True

theorem Step.late {n m : Nat} (h : Step s s') (hs : Consistent size s)
    (hpool : ∀ b p, s.pool = some (b, p) → m ≤ p.calls.length ∧ Shared.Refuses m p)
    (hlate : ∀ i c, n ≤ i → s.calls[i]? = some c → Late s.refusal m c) :
    ∀ i c, n ≤ i → s'.calls[i]? = some c → Late s.refusal m c := by
  have hset {j : Nat} {d : Call} (hd : n ≤ j → Late s.refusal m d) :
      ∀ i c, n ≤ i → (s.calls.set j d)[i]? = some c → Late s.refusal m c := by
    intro i c hi hc
    rcases getElem?_set_cases hc with ⟨rfl, rfl⟩ | ⟨-, hc⟩
    · exact hd hi
    · exact hlate i c hi hc
  cases h with
  | come purpose =>
    intro i c hi hc
    rcases getElem?_append_cases hc with hc | ⟨-, rfl⟩
    · exact hlate i c hi hc
    · trivial
  | win =>
    apply hset
    intro _
    split_ifs <;> trivial
  | pass | decline | build | publish | leave | receive | find | close | depart =>
    exact hset fun _ => trivial
  | bring | inside => exact hlate
  | @miss j purpose hc hnone =>
    apply hset
    intro _
    split_ifs
    · trivial
    · -- Without a pool, a call with a unit and one without get the same answer.
      cases purpose with
      | submit given => simp only [Late, Purpose.refusal, refusal, hnone, Option.elim_none]
      | get | shutdown => rfl
  | hand _ hbuilt => exact hset fun _ => (hpool _ _ hbuilt).1
  | @reply j b k p purpose given answer hc hbuilt hreturned =>
    apply hset
    intro hj
    have hk : m ≤ k := hlate j _ hj hc
    obtain ⟨-, b', p', d, hbuilt', hd, rfl⟩ := hs.fits _ _ hc
    cases hbuilt.symm.trans hbuilt'
    cases hd.symm.trans hreturned
    have hrefused := (hpool b p hbuilt).2 k given answer hk hreturned
    simp only [Late, Purpose.refusal, refusal, hbuilt, Option.elim_some, hrefused]

/-- The pool behind a handle from which a shutdown has returned. -/
theorem Leads.after_return {i b : Nat} {p : Shared} (h : Leads s s') (hworkers : 0 < size.workers)
    (hs : Consistent size s) (hc : s.calls[i]? = some ⟨.shutdown, .done⟩) (hpool : s.pool = some (b, p)) :
    ∃ q, s'.pool = some (b, q) ∧ q.accepted = p.accepted ∧ q.finished.Perm q.accepted ∧
      p.calls.length ≤ q.calls.length ∧ Shared.Refuses p.calls.length q := by
  obtain ⟨hspent, -, hreturned⟩ := hs.fits i _ hc
  obtain ⟨q, hq, hsteps⟩ := (h.follows hs hspent).present b p hpool
  exact ⟨q, hq, (hs.pool b p hpool).after_return hworkers (hreturned b p hpool) hsteps⟩

theorem Leads.late {i : Nat} (h : Leads s s') (hworkers : 0 < size.workers) (hs : Consistent size s)
    (hc : s.calls[i]? = some ⟨.shutdown, .done⟩) :
    ∀ j c, s.calls.length ≤ j → s'.calls[j]? = some c → Late s.refusal s.brought c := by
  have hspent : s.Spent := (hs.fits i _ hc).1
  induction h with
  | refl =>
    intro j c hj hcall
    exact absurd (List.getElem?_eq_some_iff.mp hcall).1 (Nat.not_lt.mpr hj)
  | @tail t t' hleads hstep ih =>
    have hfollows := Leads.follows hleads hs hspent
    rw [← hfollows.refusal] at ih ⊢
    refine hstep.late (hs.leads hleads) ?_ ih
    intro b q hq
    cases hpool : s.pool with
    | none => cases (hfollows.absent hpool).symm.trans hq
    | some built =>
      obtain ⟨q', hq', -, -, hlength, hrefuses⟩ := Leads.after_return hleads hworkers hs hc hpool
      cases hq'.symm.trans hq
      simp only [brought, hpool, Option.elim_some]
      exact ⟨hlength, hrefuses⟩

/-- What has become of a handle since a shutdown has returned from it. -/
structure Over (s s' : Handle) : Prop where
  /-- Nothing was taken since, and all that was taken before is finished. -/
  accepted : s'.accepted = s.accepted
  finished : ∀ k ∈ s.accepted, k ∈ s'.finished
  /-- Whoever has come since, for the pool or with a unit, is told that the handle is closed, -/
  refused : ∀ (i : Nat) (purpose : Purpose) (reply : Option SubmitError), s.calls.length ≤ i →
    s'.calls[i]? = some ⟨purpose, .answered reply⟩ → reply = some (purpose.refusal s'.refusal)
  /-- and so is whoever has got the pool and brings a unit there, -/
  turned : ∀ b p, s'.pool = some (b, p) → Shared.Refuses s.brought p
  /-- and nobody waits for that in vain. -/
  answers : ∀ (i : Nat) (given : Bool) (progress : Progress),
    s'.calls[i]? = some ⟨.submit given, progress⟩ →
    ∃ s'' reply, Leads s' s'' ∧ s''.calls[i]? = some ⟨.submit given, .answered reply⟩
  gets : ∀ (i : Nat) (progress : Progress), s'.calls[i]? = some ⟨.get, progress⟩ →
    ∃ s'', Leads s' s'' ∧ ((∃ b, s''.calls[i]? = some ⟨.get, .got b⟩) ∨
      ∃ reply, s''.calls[i]? = some ⟨.get, .answered reply⟩)
  returns : ∀ (b : Nat) (p : Shared) (k : Nat) (c : Submission), s'.pool = some (b, p) →
    p.calls[k]? = some c → ∃ s'' q reply, Leads s' s'' ∧ s''.pool = some (b, q) ∧
      q.calls[k]? = some ⟨c.given, .returned reply⟩

/-- What holds of a handle at any time. -/
structure Sound (s : Handle) : Prop where
  /-- No more than one pool is begun to be built, and everybody gets that. -/
  once : s.builds.length ≤ 1
  same : ∀ (i j b b' : Nat), s.calls[i]? = some ⟨.get, .got b⟩ → s.calls[j]? = some ⟨.get, .got b'⟩ →
    b = b'
  /-- None is built if a shutdown has had the chance. -/
  never : ∀ (i : Nat) (c : Call), s.Had i → s.calls[i]? = some c → c.purpose = .shutdown →
    ∀ s', Leads s s' → s'.builds = [] ∧ s'.pool = none
  afterwards : ∀ i : Nat, s.calls[i]? = some ⟨.shutdown, .done⟩ → ∀ s', Leads s s' → Over s s'

theorem Consistent.afterwards {i : Nat} (hs : Consistent size s) (hworkers : 0 < size.workers)
    (hc : s.calls[i]? = some ⟨.shutdown, .done⟩) (h : Leads s s') : Over s s' := by
  have hspent : s.Spent := (hs.fits i _ hc).1
  have hs' := hs.leads h
  have hfollows := h.follows hs hspent
  have hspent' : s'.Spent := by
    obtain ⟨j, hj⟩ := hspent
    exact ⟨j, hfollows.chance.trans hj⟩
  constructor
  case accepted =>
    cases hpool : s.pool with
    | none => rw [accepted, accepted, hfollows.absent hpool, hpool]
    | some built =>
      obtain ⟨q, hq, haccepted, -⟩ := h.after_return hworkers hs hc hpool
      rw [accepted, accepted, hq, hpool]
      exact haccepted
  case finished =>
    intro k hk
    cases hpool : s.pool with
    | none =>
      rw [accepted, hpool] at hk
      cases hk
    | some built =>
      obtain ⟨q, hq, haccepted, hfinished, -⟩ := h.after_return hworkers hs hc hpool
      rw [accepted, hpool] at hk
      rw [finished, hq]
      exact hfinished.mem_iff.mpr (haccepted ▸ hk)
  case refused =>
    intro j purpose reply hj hcall
    rw [hfollows.refusal]
    exact h.late hworkers hs hc j _ hj hcall
  case turned =>
    intro b q hq
    cases hpool : s.pool with
    | none => cases (hfollows.absent hpool).symm.trans hq
    | some built =>
      obtain ⟨q', hq', -, -, -, hrefuses⟩ := h.after_return hworkers hs hc hpool
      cases hq'.symm.trans hq
      rw [brought, hpool]
      exact hrefuses
  case answers =>
    intro j given progress hcall
    obtain ⟨s'', progress', hleads, hend, hended⟩ := exists_ended hs' hspent' hcall (by intro h; cases h)
    have hfits := (hs'.leads hleads).fits j _ hend
    cases progress' with
    | answered reply => exact ⟨s'', reply, hleads, hend⟩
    | got => cases hfits.2.1
    | done => cases hfits.2.1
    | waiting | deciding | building | leaving | passed | handing | closing | draining => cases hended
  case gets =>
    intro j progress hcall
    obtain ⟨s'', progress', hleads, hend, hended⟩ := exists_ended hs' hspent' hcall (by intro h; cases h)
    refine ⟨s'', hleads, ?_⟩
    have hfits := (hs'.leads hleads).fits j _ hend
    cases progress' with
    | got b => exact .inl ⟨b, hend⟩
    | answered reply => exact .inr ⟨reply, hend⟩
    | done => cases hfits.2.1
    | waiting | deciding | building | leaving | passed | handing | closing | draining => cases hended
  case returns =>
    intro b p k c hp hcall
    obtain ⟨q, reply, hsteps, hq⟩ := (hs'.pool b p hp).exists_returned hcall
    exact ⟨_, q, reply, leads_inside hp hsteps, rfl, hq⟩

/-- A handle is sound at any time, whatever its callers have done and in whatever order. -/
theorem sound_at_any_time (hworkers : 0 < size.workers) (h : Reachable size s) : Sound s := by
  have hs := h.consistent
  constructor
  case once => exact hs.builds_le
  case same =>
    intro i j b b' hi hj
    obtain ⟨-, -, p, hp⟩ := hs.fits i _ hi
    obtain ⟨-, -, p', hp'⟩ := hs.fits j _ hj
    cases hp.symm.trans hp'
    rfl
  case never => exact fun i c hhad hc hshut s' hleads => hleads.of_had hs hhad hc hshut
  case afterwards => exact fun i hc s' hleads => hs.afterwards hworkers hc hleads

/-- One worker, and a queue for one unit. A shutdown raises the flag while the first call builds the pool,
and waits for it; the unit of that call is still taken. The shutdown returns when it was run. -/
theorem exists_over : ∃ s, Reachable ⟨1, 1⟩ s ∧ s.calls = [⟨.submit true, .answered none⟩, ⟨.shutdown, .done⟩] ∧
    s.builds = [0] ∧ s.accepted = [0] ∧ s.finished = [0] ∧ s.chance = .spent 0 ∧
    ∃ p, s.pool = some (0, p) ∧ p.calls = [⟨true, .returned none⟩] := by
  refine ⟨_, .head (.come (.submit true)) <| .head (.win (i := 0) rfl rfl) <|
    .head (.build (i := 0) rfl rfl) <| .head (.come .shutdown) <| .head (.publish (i := 0) rfl) <|
    .head (.leave (i := 0) rfl) <| .head (.hand (i := 0) rfl rfl) <|
    .head (.inside rfl ⟨.enter (i := 0) rfl, rfl, rfl⟩) <|
    .head (.inside rfl ⟨.answer (i := 0) rfl rfl, rfl, rfl⟩) <|
    .head (.inside rfl ⟨.leave (i := 0) rfl, rfl, rfl⟩) <|
    .head (.reply (i := 0) rfl rfl rfl) <|
    .head (.pass (i := 1) rfl rfl) <| .head (.find (i := 1) rfl rfl) <|
    .head (.close (i := 1) rfl rfl (by decide)) <|
    .head (.inside rfl ⟨.work (.receive rfl), rfl, rfl⟩) <|
    .head (.inside rfl ⟨.work (.begin (j := 0) rfl rfl), rfl, rfl⟩) <|
    .head (.inside rfl ⟨.work (.finish (j := 0) rfl rfl false), rfl, rfl⟩) <|
    .head (.inside rfl ⟨.exit (by decide) rfl (by decide), rfl, rfl⟩) <|
    .head (.depart (i := 1) rfl rfl (by decide) rfl) .refl, ?_⟩
  exact ⟨rfl, rfl, rfl, rfl, rfl, _, rfl, rfl⟩

/-- Somebody comes with a unit after all that, and is told that the handle is closed. -/
theorem sound_at_any_time_late : ∃ s s', Reachable ⟨1, 1⟩ s ∧ s.calls[1]? = some ⟨.shutdown, .done⟩ ∧
    s.finished = [0] ∧ Leads s s' ∧ s.calls.length = 2 ∧
    s'.calls[2]? = some ⟨.submit true, .answered (some .closed)⟩ ∧ Sound s := by
  obtain ⟨s, hreach, hcalls, -, -, hfinished, -, -⟩ := exists_over
  have hsound : Sound s := sound_at_any_time (by decide) hreach
  have hdone : s.calls[1]? = some ⟨.shutdown, .done⟩ := by rw [hcalls]; rfl
  have hcome := Step.come (s := s) (.submit true)
  -- The call can be answered, and any answer to it is a refusal.
  obtain ⟨s', reply, hleads, hanswer⟩ :=
    (hsound.afterwards 1 hdone _ (.single hcome)).answers 2 true .waiting (by rw [hcalls]; rfl)
  have hlater : Leads s s' := .head hcome hleads
  have hreply := (hsound.afterwards 1 hdone s' hlater).refused 2 _ reply (by rw [hcalls]; decide) hanswer
  have hclosed : s'.refusal true = .closed := by
    unfold refusal
    cases s'.pool <;> rfl
  rw [Purpose.refusal, hclosed] at hreply
  rw [hreply] at hanswer
  exact ⟨s, s', hreach, hdone, hfinished, hlater, by rw [hcalls]; rfl, hanswer, hsound⟩

/-- Whoever comes without a unit hears of that, and not that the handle is closed. -/
theorem not_told_closed : ∃ s s', Reachable ⟨1, 1⟩ s ∧ s.calls[1]? = some ⟨.shutdown, .done⟩ ∧
    Leads s s' ∧ s.calls.length = 2 ∧ s'.calls[2]? = some ⟨.submit false, .answered (some .noUnit)⟩ ∧
    SubmitError.fault .noUnit ≠ SubmitError.fault .closed := by
  obtain ⟨s, hreach, hcalls, -, -, -, hchance, p, hpool, hbrought⟩ := exists_over
  have hlength : s.calls.length = 2 := by rw [hcalls]; rfl
  refine ⟨s, _, hreach, by rw [hcalls]; rfl, .head (.come (.submit false)) <|
    .head (.pass (i := 2) (by rw [hcalls]; rfl) hchance) <|
    .head (.hand (i := 2) (by rw [hcalls]; rfl) hpool) <|
    .head (.inside rfl ⟨.missing (i := 1) (by rw [hbrought]; rfl) rfl, by rw [List.length_set], rfl⟩) <|
    .head (.reply (i := 2) (by rw [hcalls, hbrought]; rfl) rfl (by rw [hbrought]; rfl)) .refl, hlength, ?_, by decide⟩
  rw [hcalls]
  rfl

end Handle
end Courier.Pool
