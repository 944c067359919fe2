import Courier.Pool.Lazy
import Courier.Proofs.Pool.Accounts

/-! A pool handle that many use at once: callers who ask for the pool or bring units to it, and callers
who shut it down, step by step and in any order.
They share three cells: the one chance to build, the pool once it is there, and the flag that the handle
is closed. Whoever has the chance looks at the flag and only later stores the pool; whoever shuts down
raises the flag before anything else. -/
namespace Courier.Pool

namespace Shared

/-- A call keeps its number and what it has brought, and nobody who has returned comes back. -/
theorem Step.grows {p p' : Shared} (h : Step p p') :
    (∀ (k : Nat) (d : Submission), p.calls[k]? = some d →
      ∃ d' : Submission, p'.calls[k]? = some d' ∧ d'.given = d.given) ∧
    p.returned ≤ p'.returned := by
  -- A call that comes further is replaced in its place.
  have hset {i : Nat} {c d : Submission} (hc : p.calls[i]? = some c) (hgiven : d.given = c.given) :
      ∀ (k : Nat) (e : Submission), p.calls[k]? = some e →
        ∃ e' : Submission, (p.calls.set i d)[k]? = some e' ∧ e'.given = e.given := by
    intro k e he
    by_cases hk : i = k
    · subst hk
      cases hc.symm.trans he
      have hi := (List.getElem?_eq_some_iff.mp hc).1
      exact ⟨d, List.getElem?_set_self hi, hgiven⟩
    · exact ⟨e, by rw [List.getElem?_set_ne hk, he], rfl⟩
  cases h with
  | work hwork => cases hwork <;> exact ⟨fun k d hd => ⟨d, hd, rfl⟩, Nat.le_refl _⟩
  | call given =>
    refine ⟨fun k d hd => ⟨d, ?_, rfl⟩, Nat.le_refl _⟩
    rw [List.getElem?_append_left (List.getElem?_eq_some_iff.mp hd).1, hd]
  | missing hc | enter hc | answer hc | leave hc => exact ⟨hset hc rfl, Nat.le_refl _⟩
  | exit | close | expire => exact ⟨fun k d hd => ⟨d, hd, rfl⟩, Nat.le_refl _⟩
  | depart => exact ⟨fun k d hd => ⟨d, hd, rfl⟩, Nat.le_succ _⟩

/-- A step of someone who is in the pool already: nobody comes to bring a unit or to close the pool, and
nobody returns from closing it. -/
def Quiet (p p' : Shared) : Prop :=
  Step p p' ∧ p'.calls.length = p.calls.length ∧ p'.closers = p.closers

variable {p : Shared}

theorem quiet_leave {k : Nat} {reply : Option SubmitError}
    (hc : p.calls[k]? = some ⟨true, .answered reply⟩) :
    Relation.ReflTransGen Quiet p { p with calls := p.calls.set k ⟨true, .returned reply⟩ } :=
  .single ⟨.leave hc, List.length_set, rfl⟩

theorem quiet_answer {k : Nat} {seen : State} (hc : p.calls[k]? = some ⟨true, .inside seen⟩) :
    Relation.ReflTransGen Quiet p { p with
      pool := (p.pool.submitSeeing seen { call := k }).1
      calls := p.calls.set k ⟨true, .returned (p.pool.submitSeeing seen { call := k }).2⟩ } := by
  have hk := (List.getElem?_eq_some_iff.mp hc).1
  have hanswer := Step.answer hc (Prod.eta (p.pool.submitSeeing seen { call := k })).symm
  have hleave := quiet_leave (p := { p with
    pool := (p.pool.submitSeeing seen { call := k }).1
    calls := p.calls.set k ⟨true, .answered (p.pool.submitSeeing seen { call := k }).2⟩ })
    (List.getElem?_set_self hk)
  rw [List.set_set] at hleave
  exact .head ⟨hanswer, List.length_set, rfl⟩ hleave

/-- A call that nobody comes in between of is answered by the pool as it is. -/
theorem quiet_submit {k : Nat} {given : Bool} (hc : p.calls[k]? = some ⟨given, .waiting⟩) :
    let answer := p.pool.submit (if given then some { call := k } else none)
    Relation.ReflTransGen Quiet p { p with
      pool := answer.1
      calls := p.calls.set k ⟨given, .returned answer.2⟩ } := by
  have hk := (List.getElem?_eq_some_iff.mp hc).1
  cases given with
  | false => exact .single ⟨.missing hc rfl, List.length_set, rfl⟩
  | true =>
    have hrest := quiet_answer (p := { p with calls := p.calls.set k ⟨true, .inside p.pool.state⟩ })
      (List.getElem?_set_self hk)
    rw [submitSeeing_eq Iff.rfl, List.set_set] at hrest
    exact .head ⟨.enter hc, List.length_set, rfl⟩ hrest

end Shared

namespace Handle

/-- What a call on a handle is for. A unit may be missing by mistake. -/
inductive Purpose
  | get
  | submit (given : Bool)
  | shutdown
  deriving DecidableEq

/-- How far a call on a handle has come. It passes by the chance to build: it has the chance and has not
looked at the flag yet, has seen that it may build, or is done with the chance. Then it looks for the pool,
and goes on there. -/
inductive Progress
  | waiting
  | deciding
  | building
  | leaving
  | passed
  /-- The pool has the call under a number of its own. -/
  | handing (k : Nat)
  | closing
  | draining
  /-- The pool, by the number of the call that built it. -/
  | got (builder : Nat)
  | answered (reply : Option SubmitError)
  | done

/-- Whether a call has the chance to build. -/
def Progress.holds : Progress → Bool
  | .deciding | .building | .leaving => true
  | _ => false

structure Call where
  purpose : Purpose
  progress : Progress := .waiting

/-- The one chance to build: nobody has had it, a call has it, or a call has had it. -/
inductive Chance
  | fresh
  | taken (call : Nat)
  | spent (call : Nat)

def Chance.isSpent : Chance → Bool
  | .spent _ => true
  | _ => false

end Handle

/-- A handle with all who use it: its three cells, the calls that have begun to build a pool, and the calls
so far. A pool comes with the number of the call that built it. -/
structure Handle where
  size : Size
  chance : Handle.Chance := .fresh
  closed : Bool := false
  pool : Option (Nat × Shared) := none
  builds : List Nat := []
  calls : List Handle.Call := []

namespace Handle

def start (size : Size) : Handle := { size }

/-- The cells of a handle, as they are used when nobody comes in between. -/
def cells (s : Handle) : Lazy Ticket where
  size := s.size
  spent := s.chance.isSpent
  closed := s.closed
  pool := s.pool.map fun built => built.2.pool

/-- One step of someone who uses a handle. -/
inductive Step : Handle → Handle → Prop
  -- The first thing that a shutdown does is to raise the flag.
  | come {s : Handle} (purpose : Purpose) :
      Step s { s with
        closed := s.closed || decide (purpose = .shutdown)
        calls := s.calls ++ [{ purpose }] }
  -- The chance to build: the first who comes has it, and all others wait until it is spent.
  | win {s : Handle} {i : Nat} {purpose : Purpose} (hc : s.calls[i]? = some ⟨purpose, .waiting⟩)
      (hchance : s.chance = .fresh) :
      Step s { s with
        chance := .taken i
        calls := s.calls.set i ⟨purpose, if purpose = .shutdown then .leaving else .deciding⟩ }
  | pass {s : Handle} {i j : Nat} {purpose : Purpose} (hc : s.calls[i]? = some ⟨purpose, .waiting⟩)
      (hchance : s.chance = .spent j) :
      Step s { s with calls := s.calls.set i ⟨purpose, .passed⟩ }
  | decline {s : Handle} {i : Nat} {purpose : Purpose} (hc : s.calls[i]? = some ⟨purpose, .deciding⟩)
      (hflag : s.closed = true) :
      Step s { s with calls := s.calls.set i ⟨purpose, .leaving⟩ }
  | build {s : Handle} {i : Nat} {purpose : Purpose} (hc : s.calls[i]? = some ⟨purpose, .deciding⟩)
      (hflag : s.closed = false) :
      Step s { s with
        builds := s.builds ++ [i]
        calls := s.calls.set i ⟨purpose, .building⟩ }
  | publish {s : Handle} {i : Nat} {purpose : Purpose} (hc : s.calls[i]? = some ⟨purpose, .building⟩) :
      Step s { s with
        pool := some (i, Shared.start s.size)
        calls := s.calls.set i ⟨purpose, .leaving⟩ }
  | leave {s : Handle} {i : Nat} {purpose : Purpose} (hc : s.calls[i]? = some ⟨purpose, .leaving⟩) :
      Step s { s with chance := .spent i, calls := s.calls.set i ⟨purpose, .passed⟩ }
  -- A look for the pool. Without one the handle is closed for good.
  | miss {s : Handle} {i : Nat} {purpose : Purpose} (hc : s.calls[i]? = some ⟨purpose, .passed⟩)
      (hpool : s.pool = none) :
      Step s { s with
        calls := s.calls.set i
          ⟨purpose, if purpose = .shutdown then .done else .answered (some .closed)⟩ }
  | receive {s : Handle} {i b : Nat} {p : Shared} (hc : s.calls[i]? = some ⟨.get, .passed⟩)
      (hpool : s.pool = some (b, p)) :
      Step s { s with calls := s.calls.set i ⟨.get, .got b⟩ }
  | hand {s : Handle} {i b : Nat} {p : Shared} {given : Bool}
      (hc : s.calls[i]? = some ⟨.submit given, .passed⟩) (hpool : s.pool = some (b, p)) :
      Step s { s with
        pool := some (b, { p with calls := p.calls ++ [{ given }] })
        calls := s.calls.set i ⟨.submit given, .handing p.calls.length⟩ }
  | reply {s : Handle} {i b k : Nat} {p : Shared} {purpose : Purpose} {given : Bool}
      {answer : Option SubmitError} (hc : s.calls[i]? = some ⟨purpose, .handing k⟩)
      (hpool : s.pool = some (b, p)) (hcall : p.calls[k]? = some ⟨given, .returned answer⟩) :
      Step s { s with calls := s.calls.set i ⟨purpose, .answered answer⟩ }
  -- Whoever has got the pool may bring units to it without the handle.
  | bring {s : Handle} {i b : Nat} {p : Shared} {purpose : Purpose} (given : Bool)
      (hc : s.calls[i]? = some ⟨purpose, .got b⟩) (hpool : s.pool = some (b, p)) :
      Step s { s with pool := some (b, { p with calls := p.calls ++ [{ given }] }) }
  | find {s : Handle} {i b : Nat} {p : Shared} (hc : s.calls[i]? = some ⟨.shutdown, .passed⟩)
      (hpool : s.pool = some (b, p)) :
      Step s { s with calls := s.calls.set i ⟨.shutdown, .closing⟩ }
  | close {s : Handle} {i b : Nat} {p : Shared} (hc : s.calls[i]? = some ⟨.shutdown, .closing⟩)
      (hpool : s.pool = some (b, p)) (hfree : ∀ c ∈ p.calls, c.stage.locks = false) :
      Step s { s with
        pool := some (b, { p with pool := p.pool.close, closers := p.closers + 1 })
        calls := s.calls.set i ⟨.shutdown, .draining⟩ }
  | depart {s : Handle} {i b : Nat} {p : Shared} (hc : s.calls[i]? = some ⟨.shutdown, .draining⟩)
      (hpool : s.pool = some (b, p)) (hcloser : 0 < p.closers)
      (hdone : p.exited = p.pool.size.workers) :
      Step s { s with
        pool := some (b, { p with
          pool := p.pool.terminate
          closers := p.closers - 1
          returned := p.returned + 1 })
        calls := s.calls.set i ⟨.shutdown, .done⟩ }
  -- The pool goes on by itself.
  | inside {s : Handle} {b : Nat} {p p' : Shared} (hpool : s.pool = some (b, p)) (h : Shared.Quiet p p') :
      Step s { s with pool := some (b, p') }

/-- What some order of steps leads to. -/
def Leads (s s' : Handle) : Prop := Relation.ReflTransGen Step s s'

def Reachable (size : Size) (s : Handle) : Prop := Leads (start size) s

/-! What the cells and the calls agree on at any time. -/

variable {size : Size} {s s' : Handle}

/-- Nobody has begun to build a pool, or the pool of that call is there. -/
def Settled (s : Handle) (i : Nat) : Prop :=
  (s.builds = [] ∧ s.pool = none) ∨ (s.builds = [i] ∧ ∃ p, s.pool = some (i, p))

def Spent (s : Handle) : Prop := ∃ j, s.chance = .spent j

/-- What is so for a call that has come as far as it has. -/
def Fits (s : Handle) (i : Nat) : Call → Prop
  | ⟨_, .waiting⟩ => True
  | ⟨purpose, .deciding⟩ =>
    s.chance = .taken i ∧ purpose ≠ .shutdown ∧ s.builds = [] ∧ s.pool = none
  | ⟨purpose, .building⟩ =>
    s.chance = .taken i ∧ purpose ≠ .shutdown ∧ s.builds = [i] ∧ s.pool = none
  | ⟨purpose, .leaving⟩ =>
    s.chance = .taken i ∧ s.Settled i ∧ (purpose = .shutdown → s.builds = [])
  | ⟨purpose, .handing k⟩ => s.Spent ∧
    ∃ b p d, s.pool = some (b, p) ∧ p.calls[k]? = some d ∧ purpose = .submit d.given
  | ⟨purpose, .got b⟩ => s.Spent ∧ purpose = .get ∧ ∃ p, s.pool = some (b, p)
  | ⟨purpose, .closing⟩ | ⟨purpose, .draining⟩ => s.Spent ∧ purpose = .shutdown
  | ⟨purpose, .done⟩ => s.Spent ∧ purpose = .shutdown ∧ ∀ b p, s.pool = some (b, p) → 0 < p.returned
  | ⟨_, .passed⟩ | ⟨_, .answered _⟩ => s.Spent

/-- A call that has come to the chance has it, or comes after it. -/
theorem Fits.cases {i : Nat} {c : Call} (h : s.Fits i c) :
    c.progress = .waiting ∨ s.chance = .taken i ∨ s.Spent := by
  obtain ⟨purpose, progress⟩ := c
  cases progress with
  | waiting => exact .inl rfl
  | deciding | building | leaving => exact .inr (.inl h.1)
  | handing | got | closing | draining | done => exact .inr (.inr h.1)
  | passed | answered => exact .inr (.inr h)

theorem Fits.of_waiting {i : Nat} {c : Call} (h : c.progress = .waiting) : s.Fits i c := by
  obtain ⟨purpose, progress⟩ := c
  cases h
  trivial

structure Consistent (size : Size) (s : Handle) : Prop where
  size_eq : s.size = size
  pool : ∀ b p, s.pool = some (b, p) → Shared.Reachable size p
  flag : ∀ c ∈ s.calls, c.purpose = .shutdown → s.closed = true
  fresh : s.chance = .fresh → s.builds = [] ∧ s.pool = none
  taken : ∀ i, s.chance = .taken i → ∃ c, s.calls[i]? = some c ∧ c.progress.holds = true
  spent : ∀ i, s.chance = .spent i → s.Settled i ∧
    ∃ c, s.calls[i]? = some c ∧ (c.purpose = .shutdown → s.builds = [])
  fits : ∀ i c, s.calls[i]? = some c → s.Fits i c

section Calls

variable {cs : List Call} {i j : Nat} {c d : Call}

theorem getElem?_set_cases (h : (cs.set i d)[j]? = some c) :
    (j = i ∧ c = d) ∨ (j ≠ i ∧ cs[j]? = some c) := by
  rw [List.getElem?_set] at h
  split_ifs at h with hij hi
  · exact .inl ⟨hij.symm, (Option.some.inj h).symm⟩
  · exact .inr ⟨Ne.symm hij, h⟩

theorem getElem?_append_cases (h : (cs ++ [d])[j]? = some c) :
    cs[j]? = some c ∨ (j = cs.length ∧ c = d) := by
  rcases Nat.lt_or_ge j cs.length with hj | hj
  · rw [List.getElem?_append_left hj] at h
    exact .inl h
  · rw [List.getElem?_append_right hj, List.getElem?_singleton] at h
    split_ifs at h with hzero
    exact .inr ⟨by omega, (Option.some.inj h).symm⟩

end Calls

namespace Consistent

theorem start (size : Size) : Consistent size (start size) where
  size_eq := rfl
  pool := nofun
  flag := nofun
  fresh := fun _ => ⟨rfl, rfl⟩
  taken := nofun
  spent := nofun
  fits := nofun

/-- A call comes further, and the cells stay as they are. -/
theorem advance (h : Consistent size s) {i : Nat} {c d : Call} (hc : s.calls[i]? = some c)
    (hpurpose : d.purpose = c.purpose) (hholds : c.progress.holds = true → d.progress.holds = true)
    (hd : s.Fits i d) : Consistent size { s with calls := s.calls.set i d } := by
  have hi := (List.getElem?_eq_some_iff.mp hc).1
  refine { h with flag := ?_, taken := ?_, spent := ?_, fits := ?_ }
  · intro e he hshut
    rcases List.mem_or_eq_of_mem_set he with he | rfl
    · exact h.flag e he hshut
    · exact h.flag c (List.mem_of_getElem? hc) (hpurpose ▸ hshut)
  · intro j hj
    obtain ⟨e, he, heholds⟩ := h.taken j hj
    by_cases hij : i = j
    · subst hij
      cases hc.symm.trans he
      exact ⟨d, List.getElem?_set_self hi, hholds heholds⟩
    · exact ⟨e, by rw [List.getElem?_set_ne hij, he], heholds⟩
  · intro j hj
    obtain ⟨hsettled, e, he, hshut⟩ := h.spent j hj
    refine ⟨hsettled, ?_⟩
    by_cases hij : i = j
    · subst hij
      cases hc.symm.trans he
      exact ⟨d, List.getElem?_set_self hi, hpurpose ▸ hshut⟩
    · exact ⟨e, by rw [List.getElem?_set_ne hij, he], hshut⟩
  · intro j e he
    rcases getElem?_set_cases he with ⟨rfl, rfl⟩ | ⟨-, he⟩
    · exact hd
    · exact h.fits j e he

/-- The pool goes on. -/
theorem move (h : Consistent size s) {b : Nat} {p p' : Shared} (hpool : s.pool = some (b, p))
    (hstep : Shared.Step p p') : Consistent size { s with pool := some (b, p') } := by
  obtain ⟨hcalls, hreturned⟩ := hstep.grows
  have hsettled : ∀ i, s.Settled i → ({ s with pool := some (b, p') } : Handle).Settled i := by
    rintro i (⟨-, hnone⟩ | ⟨hbuilds, q, hq⟩)
    · cases hpool.symm.trans hnone
    · cases hpool.symm.trans hq
      exact .inr ⟨hbuilds, p', rfl⟩
  refine { h with pool := ?_, fresh := ?_, spent := ?_, fits := ?_ }
  · rintro c q ⟨⟩
    exact (h.pool b p hpool).tail hstep
  · intro hfresh
    cases hpool.symm.trans (h.fresh hfresh).2
  · intro i hi
    exact ⟨hsettled i (h.spent i hi).1, (h.spent i hi).2⟩
  · intro i c hc
    have hfits := h.fits i c hc
    obtain ⟨purpose, progress⟩ := c
    cases progress with
    | waiting => trivial
    | deciding => cases hpool.symm.trans hfits.2.2.2
    | building => cases hpool.symm.trans hfits.2.2.2
    | leaving => exact ⟨hfits.1, hsettled i hfits.2.1, hfits.2.2⟩
    | handing k =>
      obtain ⟨hspent, b', q, d, hq, hd, hgiven⟩ := hfits
      cases hpool.symm.trans hq
      obtain ⟨d', hd', hsame⟩ := hcalls k d hd
      exact ⟨hspent, b, p', d', rfl, hd', hsame ▸ hgiven⟩
    | got b' =>
      obtain ⟨hspent, hget, q, hq⟩ := hfits
      cases hpool.symm.trans hq
      exact ⟨hspent, hget, p', rfl⟩
    | done =>
      refine ⟨hfits.1, hfits.2.1, ?_⟩
      rintro b' q ⟨⟩
      exact Nat.lt_of_lt_of_le (hfits.2.2 b p hpool) hreturned
    | passed | closing | draining | answered => exact hfits

theorem come (h : Consistent size s) (purpose : Purpose) :
    Consistent size { s with
      closed := s.closed || decide (purpose = .shutdown)
      calls := s.calls ++ [{ purpose }] } := by
  have hold {i : Nat} {c : Call} (hc : s.calls[i]? = some c) :
      (s.calls ++ [({ purpose } : Call)])[i]? = some c := by
    rw [List.getElem?_append_left (List.getElem?_eq_some_iff.mp hc).1, hc]
  refine { h with flag := ?_, taken := ?_, spent := ?_, fits := ?_ }
  · intro c hc hshut
    rcases List.mem_append.mp hc with hc | hc
    · exact Bool.or_eq_true_iff.mpr (.inl (h.flag c hc hshut))
    · cases List.mem_singleton.mp hc
      exact Bool.or_eq_true_iff.mpr (.inr (decide_eq_true hshut))
  · intro i hi
    obtain ⟨c, hc, hholds⟩ := h.taken i hi
    exact ⟨c, hold hc, hholds⟩
  · intro i hi
    obtain ⟨hsettled, c, hc, hshut⟩ := h.spent i hi
    exact ⟨hsettled, c, hold hc, hshut⟩
  · intro i c hc
    rcases getElem?_append_cases hc with hc | ⟨rfl, rfl⟩
    · exact h.fits i c hc
    · trivial

/-- While the chance is not spent, only the call that has it has come further than the others. -/
theorem waiting (h : Consistent size s) {i j : Nat} {c : Call}
    (hchance : s.chance = .fresh ∨ s.chance = .taken i) (hc : s.calls[j]? = some c) (hne : j ≠ i) :
    c.progress = .waiting := by
  rcases (h.fits j c hc).cases with hwaiting | htaken | ⟨k, hspent⟩
  · exact hwaiting
  · rcases hchance with hfresh | htaken'
    · cases hfresh.symm.trans htaken
    · cases htaken'.symm.trans htaken
      exact absurd rfl hne
  · rcases hchance with hfresh | htaken
    · cases hfresh.symm.trans hspent
    · cases htaken.symm.trans hspent

/-- A step with the chance to build. Nobody else has seen anything of the cells that could change. -/
theorem turn (h : Consistent size s) {i : Nat} {c d : Call} (hc : s.calls[i]? = some c)
    (hchance : s.chance = .fresh ∨ s.chance = .taken i) (hsize : s'.size = s.size)
    (hclosed : s'.closed = s.closed) (hcalls : s'.calls = s.calls.set i d)
    (hpurpose : d.purpose = c.purpose) (hpool : ∀ b p, s'.pool = some (b, p) → Shared.Reachable size p)
    (hafter : (s'.chance = .taken i ∧ d.progress.holds = true) ∨
      (s'.chance = .spent i ∧ s'.Settled i ∧ (d.purpose = .shutdown → s'.builds = [])))
    (hd : s'.Fits i d) : Consistent size s' := by
  have hself : s'.calls[i]? = some d := by
    rw [hcalls]
    exact List.getElem?_set_self (List.getElem?_eq_some_iff.mp hc).1
  constructor
  case size_eq => exact hsize.trans h.size_eq
  case pool => exact hpool
  case flag =>
    intro e he hshut
    rw [hcalls] at he
    rw [hclosed]
    rcases List.mem_or_eq_of_mem_set he with he | rfl
    · exact h.flag e he hshut
    · exact h.flag c (List.mem_of_getElem? hc) (hpurpose ▸ hshut)
  case fresh =>
    intro hfresh
    rcases hafter with ⟨htaken, -⟩ | ⟨hspent, -⟩
    · cases hfresh.symm.trans htaken
    · cases hfresh.symm.trans hspent
  case taken =>
    intro j hj
    rcases hafter with ⟨htaken, hholds⟩ | ⟨hspent, -⟩
    · cases hj.symm.trans htaken
      exact ⟨d, hself, hholds⟩
    · cases hj.symm.trans hspent
  case spent =>
    intro j hj
    rcases hafter with ⟨htaken, -⟩ | ⟨hspent, hsettled, hshut⟩
    · cases hj.symm.trans htaken
    · cases hj.symm.trans hspent
      exact ⟨hsettled, d, hself, hshut⟩
  case fits =>
    intro j e he
    rw [hcalls] at he
    rcases getElem?_set_cases he with ⟨rfl, rfl⟩ | ⟨hne, he⟩
    · exact hd
    · exact .of_waiting (h.waiting hchance he hne)

/-- Every step keeps the cells and the calls in agreement. -/
theorem step (h : Consistent size s) (hstep : Step s s') : Consistent size s' := by
  cases hstep with
  | come purpose => exact h.come purpose
  | @win i purpose hc hchance =>
    obtain ⟨hbuilds, hpool⟩ := h.fresh hchance
    refine h.turn hc (.inl hchance) rfl rfl rfl rfl h.pool (.inl ⟨rfl, ?_⟩) ?_
    · split_ifs <;> rfl
    · split_ifs with hshut
      · exact ⟨rfl, .inl ⟨hbuilds, hpool⟩, fun _ => hbuilds⟩
      · exact ⟨rfl, hshut, hbuilds, hpool⟩
  | pass hc hchance => exact h.advance hc rfl nofun ⟨_, hchance⟩
  | decline hc =>
    obtain ⟨hchance, -, hbuilds, hpool⟩ := h.fits _ _ hc
    exact h.advance hc rfl (fun _ => rfl) ⟨hchance, .inl ⟨hbuilds, hpool⟩, fun _ => hbuilds⟩
  | build hc =>
    obtain ⟨hchance, hpurpose, hbuilds, hpool⟩ := h.fits _ _ hc
    refine h.turn hc (.inr hchance) rfl rfl rfl rfl h.pool (.inl ⟨hchance, rfl⟩) ?_
    exact ⟨hchance, hpurpose, by rw [hbuilds]; rfl, hpool⟩
  | publish hc =>
    obtain ⟨hchance, hpurpose, hbuilds, -⟩ := h.fits _ _ hc
    refine h.turn hc (.inr hchance) rfl rfl rfl rfl ?_ (.inl ⟨hchance, rfl⟩) ?_
    · rintro b p ⟨⟩
      rw [h.size_eq]
      exact .refl
    · exact ⟨hchance, .inr ⟨hbuilds, _, rfl⟩, fun hshut => absurd hshut hpurpose⟩
  | leave hc =>
    obtain ⟨hchance, hsettled, hshut⟩ := h.fits _ _ hc
    exact h.turn hc (.inr hchance) rfl rfl rfl rfl h.pool (.inr ⟨rfl, hsettled, hshut⟩) ⟨_, rfl⟩
  | miss hc hpool =>
    have hspent : s.Spent := h.fits _ _ hc
    refine h.advance hc rfl nofun ?_
    split_ifs with hshut
    · refine ⟨hspent, hshut, fun b p hp => ?_⟩
      cases hpool.symm.trans hp
    · exact hspent
  | receive hc hpool => exact h.advance hc rfl nofun ⟨h.fits _ _ hc, rfl, _, hpool⟩
  | @hand i b p given hc hpool =>
    have hspent : s.Spent := h.fits _ _ hc
    refine (h.move hpool (.call given)).advance hc rfl nofun ⟨hspent, b, _, { given }, rfl, ?_, rfl⟩
    exact List.getElem?_concat_length
  | reply hc => exact h.advance hc rfl nofun (h.fits _ _ hc).1
  | bring given hc hpool => exact h.move hpool (.call given)
  | find hc hpool => exact h.advance hc rfl nofun ⟨h.fits _ _ hc, rfl⟩
  | close hc hpool hfree =>
    have hspent : s.Spent := (h.fits _ _ hc).1
    exact (h.move hpool (.close hfree)).advance hc rfl nofun ⟨hspent, rfl⟩
  | depart hc hpool hcloser hdone =>
    have hspent : s.Spent := (h.fits _ _ hc).1
    refine (h.move hpool (.depart hcloser hdone)).advance hc rfl nofun ⟨hspent, rfl, ?_⟩
    rintro b p ⟨⟩
    exact Nat.succ_pos _
  | inside hpool hquiet => exact h.move hpool hquiet.1

theorem leads (h : Consistent size s) (hleads : Leads s s') : Consistent size s' := by
  induction hleads with
  | refl => exact h
  | tail _ hstep ih => exact ih.step hstep

end Consistent

theorem Reachable.consistent (h : Reachable size s) : Consistent size s := (Consistent.start size).leads h

/-! An operation that nobody comes in between of does to the cells what it does alone. -/

/-- How many units were brought to the pool. -/
def brought (s : Handle) : Nat := s.pool.elim 0 fun built => built.2.calls.length

/-- What goes on in the pool goes on behind the handle. -/
theorem leads_inside {b : Nat} {p p' : Shared} (hpool : s.pool = some (b, p))
    (h : Relation.ReflTransGen Shared.Quiet p p') : Leads s { s with pool := some (b, p') } := by
  induction h with
  | refl =>
    rw [← hpool]
    exact .refl
  | tail _ hquiet ih => exact ih.tail (.inside rfl hquiet)

section AtOneGo

theorem set_concat {α : Type} {cs : List α} {c d : α} : (cs ++ [c]).set cs.length d = cs ++ [d] := by
  rw [List.set_append_right _ _ (Nat.le_refl _), Nat.sub_self]
  rfl

theorem leads_come {purpose : Purpose} (hpurpose : purpose ≠ .shutdown) :
    Leads s { s with calls := s.calls ++ [⟨purpose, .waiting⟩] } := by
  have hcome := Step.come (s := s) purpose
  rw [decide_eq_false hpurpose, Bool.or_false] at hcome
  exact .single hcome

/-- A call that is not a shutdown passes by the chance. -/
theorem leads_build (hs : Consistent size s) (hfree : ∀ i, s.chance ≠ .taken i) (purpose : Purpose)
    (hpurpose : purpose ≠ .shutdown) :
    ∃ s', Leads s s' ∧ s'.cells = s.cells.build ∧ s'.calls = s.calls ++ [⟨purpose, .passed⟩] ∧
      s'.brought = s.brought := by
  have hcome := leads_come (s := s) hpurpose
  have hlast {c : Call} : (s.calls ++ [c])[s.calls.length]? = some c := List.getElem?_concat_length
  cases hchance : s.chance with
  | taken i => exact absurd hchance (hfree i)
  | spent j =>
    refine ⟨_, hcome.tail (.pass hlast hchance), ?_, set_concat, rfl⟩
    simp only [cells, Lazy.build, hchance, Chance.isSpent, ↓reduceIte]
  | fresh =>
    obtain ⟨-, hpool⟩ := hs.fresh hchance
    have hwin := Step.win (s := { s with calls := s.calls ++ [⟨purpose, .waiting⟩] }) hlast hchance
    rw [if_neg hpurpose, set_concat] at hwin
    have hturn := hcome.tail hwin
    by_cases hflag : s.closed = true
    · refine ⟨_, (hturn.tail (.decline hlast hflag)).tail
        (.leave (i := s.calls.length) (by rw [set_concat, hlast])), ?_, ?_, rfl⟩
      · simp only [cells, Lazy.build, hchance, hpool, hflag, Chance.isSpent, Bool.false_eq_true, ↓reduceIte,
          Option.map_none]
      · rw [set_concat, set_concat]
    · refine ⟨_, ((hturn.tail (.build hlast (Bool.eq_false_iff.mpr hflag))).tail
        (.publish (i := s.calls.length) (by rw [set_concat, hlast]))).tail
        (.leave (i := s.calls.length) (by rw [set_concat, set_concat, hlast])), ?_, ?_, ?_⟩
      · simp only [cells, Lazy.build, hchance, hflag, Chance.isSpent, Bool.false_eq_true, ↓reduceIte,
          Option.map_some, Shared.start]
      · rw [set_concat, set_concat, set_concat]
      · simp only [brought, hpool, Option.elim_some, Option.elim_none, Shared.start, List.length_nil]

/-- A look for the pool gives it, or says that the handle is closed. -/
theorem get_at_one_go (hs : Consistent size s) (hfree : ∀ i, s.chance ≠ .taken i) :
    ∃ s' progress, Leads s s' ∧ s'.cells = s.cells.get.1 ∧ s'.calls = s.calls ++ [⟨.get, progress⟩] ∧
      match s.cells.get.2 with
      | .ok p => ∃ b q, progress = .got b ∧ s'.pool = some (b, q) ∧ q.pool = p
      | .error e => progress = .answered (some e) := by
  obtain ⟨t, hleads, hcells, hcalls, -⟩ := leads_build hs hfree .get nofun
  have hlast : t.calls[s.calls.length]? = some ⟨.get, .passed⟩ := by
    rw [hcalls]
    exact List.getElem?_concat_length
  cases hpool : t.pool with
  | none =>
    have hnone : s.cells.build.pool = none := by rw [← hcells, cells, hpool]; rfl
    refine ⟨_, .answered (some .closed), hleads.tail (.miss hlast hpool), hcells, ?_, ?_⟩
    · simp only [hcalls, set_concat, reduceCtorEq, ↓reduceIte]
    · simp only [Lazy.get, hnone]
  | some built =>
    have hsome : s.cells.build.pool = some built.2.pool := by rw [← hcells, cells, hpool]; rfl
    refine ⟨_, .got built.1, hleads.tail (.receive hlast hpool), hcells, ?_, ?_⟩
    · simp only [hcalls, set_concat]
    · simp only [Lazy.get, hsome]
      exact ⟨built.1, built.2, rfl, hpool, rfl⟩

theorem leads_submit {i b : Nat} {p : Shared} {given : Bool}
    (hc : s.calls[i]? = some ⟨.submit given, .passed⟩) (hpool : s.pool = some (b, p)) :
    let answer := p.pool.submit (if given then some { call := p.calls.length } else none)
    Leads s { s with
      pool := some (b, { p with pool := answer.1, calls := p.calls ++ [⟨given, .returned answer.2⟩] })
      calls := s.calls.set i ⟨.submit given, .answered answer.2⟩ } := by
  intro answer
  have hi := (List.getElem?_eq_some_iff.mp hc).1
  -- The pool has the call under the next number, and answers it.
  have hquiet := Shared.quiet_submit (p := { p with calls := p.calls ++ [⟨given, .waiting⟩] })
    (k := p.calls.length) List.getElem?_concat_length
  simp only [set_concat] at hquiet
  have hinside := (Relation.ReflTransGen.single (Step.hand hc hpool)).trans (leads_inside rfl hquiet)
  have hreply := hinside.tail (.reply (List.getElem?_set_self hi) rfl List.getElem?_concat_length)
  rw [List.set_set] at hreply
  exact hreply

/-- A unit gets the answer of the pool, or the handle is closed. The pool knows it by its number. -/
theorem submit_at_one_go (hs : Consistent size s) (hfree : ∀ i, s.chance ≠ .taken i) (given : Bool) :
    let answer := s.cells.submit (if given then some { call := s.brought } else none)
    ∃ s', Leads s s' ∧ s'.cells = answer.1 ∧ s'.calls = s.calls ++ [⟨.submit given, .answered answer.2⟩] := by
  obtain ⟨t, hleads, hcells, hcalls, hbrought⟩ := leads_build hs hfree (.submit given) nofun
  have hlast : t.calls[s.calls.length]? = some ⟨.submit given, .passed⟩ := by
    rw [hcalls]
    exact List.getElem?_concat_length
  cases hpool : t.pool with
  | none =>
    have hnone : s.cells.build.pool = none := by rw [← hcells, cells, hpool]; rfl
    refine ⟨_, hleads.tail (.miss hlast hpool), ?_, ?_⟩
    · simp only [Lazy.submit, hnone]
      exact hcells
    · simp only [Lazy.submit, hnone, hcalls, set_concat, reduceCtorEq, ↓reduceIte]
  | some built =>
    obtain ⟨b, p⟩ := built
    have hsome : s.cells.build.pool = some p.pool := by rw [← hcells, cells, hpool]; rfl
    have hnumber : s.brought = p.calls.length := by rw [← hbrought, brought, hpool]; rfl
    refine ⟨_, hleads.trans (leads_submit hlast hpool), ?_, ?_⟩
    · simp only [Lazy.submit, hsome, hnumber]
      rw [← hcells]
      rfl
    · simp only [Lazy.submit, hsome, hnumber, hcalls, set_concat]

/-- A shutdown raises the flag and passes by the chance. -/
theorem leads_shut (hfree : ∀ i, s.chance ≠ .taken i) :
    ∃ s', Leads s s' ∧ s'.cells = { s.cells with closed := true, spent := true } ∧
      s'.calls = s.calls ++ [⟨.shutdown, .passed⟩] ∧ s'.pool = s.pool := by
  have hcome := Step.come (s := s) .shutdown
  rw [decide_eq_true rfl, Bool.or_true] at hcome
  have hlast {c : Call} : (s.calls ++ [c])[s.calls.length]? = some c := List.getElem?_concat_length
  cases hchance : s.chance with
  | taken i => exact absurd hchance (hfree i)
  | spent j =>
    refine ⟨_, .head hcome (.single (.pass hlast hchance)), ?_, set_concat, rfl⟩
    simp only [cells, hchance, Chance.isSpent]
  | fresh =>
    have hwin := Step.win (s := { s with closed := true, calls := s.calls ++ [⟨.shutdown, .waiting⟩] })
      hlast hchance
    rw [if_pos rfl, set_concat] at hwin
    exact ⟨_, .head hcome (.head hwin (.single (.leave hlast))), rfl, set_concat, rfl⟩

/-- A shutdown closes the handle and the pool behind it, once nobody has the lock of the pool. -/
theorem close_at_one_go (hfree : ∀ i, s.chance ≠ .taken i)
    (hlocks : ∀ b p, s.pool = some (b, p) → ∀ c ∈ p.calls, c.stage.locks = false) :
    ∃ s' progress, Leads s s' ∧ s'.cells = s.cells.close ∧
      s'.calls = s.calls ++ [⟨.shutdown, progress⟩] := by
  obtain ⟨t, hleads, hcells, hcalls, hsame⟩ := leads_shut hfree
  have hlast : t.calls[s.calls.length]? = some ⟨.shutdown, .passed⟩ := by
    rw [hcalls]
    exact List.getElem?_concat_length
  have hlength : s.calls.length < t.calls.length := (List.getElem?_eq_some_iff.mp hlast).1
  have hsize : t.size = s.size := congrArg Lazy.size hcells
  have hspent : t.chance.isSpent = true := congrArg Lazy.spent hcells
  have hclosed : t.closed = true := congrArg Lazy.closed hcells
  cases hpool : s.pool with
  | none =>
    have hnone := hsame.trans hpool
    refine ⟨_, .done, hleads.tail (.miss hlast hnone), ?_, ?_⟩
    · simp only [cells, Lazy.close, hsize, hspent, hclosed, hpool, hnone, Option.map_none]
    · simp only [hcalls, set_concat, ↓reduceIte]
  | some built =>
    obtain ⟨b, p⟩ := built
    have hfind := Step.find hlast (hsame.trans hpool)
    have hclose := Step.close (s := { t with calls := t.calls.set s.calls.length ⟨.shutdown, .closing⟩ })
      (List.getElem?_set_self hlength) (hsame.trans hpool) (hlocks b p hpool)
    refine ⟨_, .draining, (hleads.tail hfind).tail hclose, ?_, ?_⟩
    · simp only [cells, Lazy.close, hsize, hspent, hclosed, hpool, Option.map_some]
    · simp only [hcalls, set_concat]

end AtOneGo

end Handle
end Courier.Pool
