import Courier.Proofs.Pool.Shared

/-! The life of a shared pool: what the pool, its workers, its callers and those who shut it down
agree on at any time.
Whoever has the lock keeps the pool from being closed, so that what a caller has seen when it came
is still so when it hands in its unit. Nobody returns from a shutdown before all workers have gone
home, and a worker goes home only when there is nothing left. -/
namespace Courier.Pool.Shared

variable {s s' : Shared}

/-- The states that a pool goes through. -/
inductive Moves : State → State → Prop
  | stay (state : State) : Moves state state
  | close : Moves .active .shuttingDown
  | finish : Moves .shuttingDown .terminated

theorem Step.moves (h : Step s s') : Moves s.pool.state s'.pool.state := by
  cases h with
  | work hwork =>
    cases hwork with
    | receive htake =>
      obtain ⟨rest, -, -, rfl⟩ := start?_eq_some htake
      exact .stay _
    | begin | finish => exact .stay _
  | missing _ hsubmit =>
    cases hsubmit
    exact .stay _
  | answer _ hsubmit =>
    cases hsubmit
    exact .stay _
  | exit | call | enter | leave | expire => exact .stay _
  | close =>
    unfold Pool.close
    split_ifs with hactive
    · rw [hactive]
      exact .close
    · exact .stay _
  | depart =>
    unfold Pool.terminate
    split_ifs with hlast
    · rw [hlast.1]
      exact .finish
    · exact .stay _

/-- What a call has seen or was told is still so, as far as it goes on that. -/
def Fits (state : State) (c : Submission) : Prop :=
  match c.stage with
  | .inside seen => seen = .active ↔ state = .active
  | .answered reply => reply = some .closed ↔ state ≠ .active
  | _ => True

theorem Fits.of_not_locks {state : State} {c : Submission} (h : c.stage.locks = false) :
    Fits state c := by
  unfold Fits
  split
  · next hstage => rw [hstage] at h; cases h
  · next hstage => rw [hstage] at h; cases h
  · trivial

/-- A closed pool stays closed, so that nothing changes for those who have seen that it is. -/
theorem Fits.of_closed {state state' : State} {c : Submission} (h : Fits state c)
    (hstate : state ≠ .active) (hstate' : state' ≠ .active) : Fits state' c := by
  unfold Fits at *
  split at h
  · exact h.trans (iff_of_false hstate hstate')
  · exact h.trans (iff_of_true hstate hstate')
  · trivial

theorem fits_set {state : State} {cs : List Submission} {i : Nat} {d : Submission}
    (h : ∀ c ∈ cs, Fits state c) (hd : Fits state d) : ∀ c ∈ cs.set i d, Fits state c := by
  intro c hc
  rcases List.mem_or_eq_of_mem_set hc with hc | rfl
  · exact h c hc
  · exact hd

/-- What the pool, its workers and those who shut it down agree on at any time. -/
structure Orderly (size : Size) (s : Shared) : Prop where
  size_eq : s.pool.size = size
  queue_le : s.pool.queue.length ≤ size.capacity
  workers_le : s.pool.running.length + s.exited ≤ size.workers
  built : s.pool.state ≠ .uninitialized
  exited : 0 < s.exited → s.pool.state ≠ .active ∧ s.pool.queue = []
  closed : 0 < s.closers → s.pool.state ≠ .active
  ended : s.pool.state = .terminated → s.exited = size.workers
  returned : 0 < s.returned → s.pool.state = .terminated
  fits : ∀ c ∈ s.calls, Fits s.pool.state c

namespace Orderly

variable {size : Size}

theorem start (size : Size) : Orderly size (start size) where
  size_eq := rfl
  queue_le := Nat.zero_le _
  workers_le := Nat.zero_le _
  built := by simp [Shared.start]
  exited := by simp [Shared.start]
  closed := by simp [Shared.start]
  ended := by simp [Shared.start]
  returned := by simp [Shared.start]
  fits := by simp [Shared.start]

/-- Calls come and go, and the pool is as it was. -/
theorem calls (h : Orderly size s) {cs : List Submission} (hcs : ∀ c ∈ cs, Fits s.pool.state c) :
    Orderly size { s with calls := cs } :=
  { h with fits := hcs }

/-- All workers have gone home, so that nothing is left. -/
theorem idle (h : Orderly size s) (hworkers : 0 < size.workers) (hdone : s.exited = size.workers) :
    s.pool.queue = [] ∧ s.pool.running = [] := by
  have hrunning : s.pool.running.length = 0 := by
    have hworkers_le := h.workers_le
    omega
  exact ⟨(h.exited (by omega)).2, List.eq_nil_of_length_eq_zero hrunning⟩

theorem work (h : Orderly size s) (hwork : Work s s') : Orderly size s' := by
  cases hwork with
  | receive htake =>
    obtain ⟨rest, hqueue, hfree, rfl⟩ := start?_eq_some htake
    -- There is still something in the queue, so nobody has gone home.
    have hnobody : s.exited = 0 := by
      by_contra hne
      have hempty := (h.exited (by omega)).2
      rw [hqueue] at hempty
      cases hempty
    have hlength : s.pool.queue.length = rest.length + 1 := by rw [hqueue]; rfl
    have hqueue_le := h.queue_le
    rw [h.size_eq] at hfree
    refine { h with queue_le := ?_, workers_le := ?_, exited := ?_ }
    · change rest.length ≤ size.capacity
      omega
    · change (s.pool.running ++ [_]).length + s.exited ≤ size.workers
      rw [List.length_append, List.length_singleton]
      omega
    · intro hexited
      exact absurd hnobody (Nat.ne_of_gt hexited)
  | @begin j t ht =>
    refine { h with workers_le := ?_ }
    change (s.pool.running.set j _).length + s.exited ≤ size.workers
    rw [List.length_set]
    exact h.workers_le
  | @finish j t ht =>
    refine { h with workers_le := ?_ }
    change (s.pool.running.eraseIdx j).length + s.exited ≤ size.workers
    have hlength := List.length_eraseIdx_le s.pool.running j
    have hworkers_le := h.workers_le
    omega

theorem answer (h : Orderly size s) {i : Nat} {q : Pool Ticket} {reply : Option SubmitError}
    (hsubmit : s.pool.submit (some { call := i }) = (q, reply)) :
    Orderly size { s with pool := q, calls := s.calls.set i ⟨true, .answered reply⟩ } := by
  rcases submit_cases hsubmit with ⟨rfl, hstate, rfl⟩ | ⟨rfl, hstate, -, rfl⟩ |
    ⟨rfl, hstate, hroom, rfl⟩
  · exact { h with fits := fits_set h.fits (iff_of_true rfl hstate) }
  · exact { h with fits := fits_set h.fits (iff_of_false (by simp) (not_not.mpr hstate)) }
  · refine { h with queue_le := ?_, exited := ?_, fits := ?_ }
    · rw [h.size_eq] at hroom
      change (s.pool.queue ++ [_]).length ≤ size.capacity
      rw [List.length_append, List.length_singleton]
      exact hroom
    · intro hexited
      -- Workers go home only when the pool is closed, and it was not.
      exact absurd hstate (h.exited hexited).1
    · exact fits_set h.fits (iff_of_false (by simp) (not_not.mpr hstate))

theorem close (h : Orderly size s) (hfree : ∀ c ∈ s.calls, c.stage.locks = false) :
    Orderly size { s with pool := s.pool.close, closers := s.closers + 1 } := by
  unfold Pool.close
  split_ifs with hactive
  · refine { h with
      built := ?_, exited := ?_, closed := ?_, ended := ?_, returned := ?_, fits := ?_ }
    · simp
    · exact fun hexited => absurd hactive (h.exited hexited).1
    · simp
    · simp
    · intro hreturned
      cases hactive.symm.trans (h.returned hreturned)
    · -- Nobody has the lock, so nobody goes on what was seen before.
      exact fun c hc => .of_not_locks (hfree c hc)
  · exact { h with closed := fun _ => hactive }

theorem depart (h : Orderly size s) (hworkers : 0 < size.workers) (hcloser : 0 < s.closers)
    (hdone : s.exited = s.pool.size.workers) :
    Orderly size { s with
      pool := s.pool.terminate
      closers := s.closers - 1
      returned := s.returned + 1 } := by
  have hclosed := h.closed hcloser
  rw [h.size_eq] at hdone
  obtain ⟨hqueue, hrunning⟩ := h.idle hworkers hdone
  have hidle : s.pool.isIdle = true := by simp [isIdle, hqueue, hrunning]
  unfold Pool.terminate
  split_ifs with hlast
  · refine { h with
      built := ?_, exited := ?_, closed := ?_, ended := ?_, returned := ?_, fits := ?_ }
    · simp
    · exact fun _ => ⟨by simp, hqueue⟩
    · simp
    · exact fun _ => hdone
    · simp
    · exact fun c hc => (h.fits c hc).of_closed hclosed (by simp)
  · -- A closed pool that is empty and did not end now has ended before.
    have hended : s.pool.state = .terminated := by
      cases hstate : s.pool.state with
      | uninitialized => exact absurd hstate h.built
      | active => exact absurd hstate hclosed
      | shuttingDown => exact absurd ⟨hstate, hidle⟩ hlast
      | terminated => rfl
    exact { h with closed := fun _ => hclosed, returned := fun _ => hended }

/-- Every step keeps all who take part in agreement. -/
theorem step (h : Orderly size s) (hworkers : 0 < size.workers) (hstep : Step s s') :
    Orderly size s' := by
  cases hstep with
  | work hwork => exact h.work hwork
  | exit hclosed hempty hfree =>
    rw [h.size_eq] at hfree
    refine { h with workers_le := ?_, exited := fun _ => ⟨hclosed, hempty⟩, ended := ?_ }
    · change s.pool.running.length + (s.exited + 1) ≤ size.workers
      omega
    · intro hended
      -- A pool has ended only when all workers had gone home, and this one had not.
      have hall := h.ended hended
      omega
  | call given =>
    refine h.calls fun c hc => ?_
    rcases List.mem_append.mp hc with hc | hc
    · exact h.fits c hc
    · rw [List.mem_singleton.mp hc]
      trivial
  | missing hc hsubmit =>
    cases hsubmit
    exact h.calls (fits_set h.fits trivial)
  | enter hc => exact h.calls (fits_set h.fits Iff.rfl)
  | answer hc hsubmit =>
    rw [submitSeeing_eq (h.fits _ (List.mem_of_getElem? hc))] at hsubmit
    exact h.answer hsubmit
  | leave hc => exact h.calls (fits_set h.fits trivial)
  | close hfree => exact h.close hfree
  | expire => exact { h with }
  | depart hcloser hdone => exact h.depart hworkers hcloser hdone

end Orderly

/-- The answer to a caller that has the lock. -/
theorem Orderly.answers {size : Size} (h : Orderly size s) {i : Nat} {seen : State}
    {q : Pool Ticket} {reply : Option SubmitError} (hc : s.calls[i]? = some ⟨true, .inside seen⟩)
    (hsubmit : s.pool.submitSeeing seen { call := i } = (q, reply)) :
    s.pool.submit (some { call := i }) = (q, reply) ∧
    (reply = some .closed ↔ s.pool.state ≠ .active) ∧
    (reply = some .saturated ↔ s.pool.state = .active ∧ s.pool.queue.length = size.capacity) ∧
    (reply = none ↔ s.pool.state = .active ∧ s.pool.queue.length < size.capacity) := by
  rw [submitSeeing_eq (h.fits _ (List.mem_of_getElem? hc))] at hsubmit
  have hqueue := h.queue_le
  refine ⟨hsubmit, ?_⟩
  rcases submit_cases hsubmit with ⟨rfl, hstate, -⟩ | ⟨rfl, hstate, hfull, -⟩ |
    ⟨rfl, hstate, hroom, -⟩
  · exact ⟨iff_of_true rfl hstate, iff_of_false nofun (fun h => hstate h.1),
      iff_of_false nofun (fun h => hstate h.1)⟩
  · rw [h.size_eq] at hfull
    exact ⟨iff_of_false nofun (not_not.mpr hstate), iff_of_true rfl ⟨hstate, by omega⟩,
      iff_of_false nofun (by omega)⟩
  · rw [h.size_eq] at hroom
    exact ⟨iff_of_false nofun (not_not.mpr hstate), iff_of_false nofun (by omega),
      iff_of_true rfl ⟨hstate, hroom⟩⟩

/-- The moves that workers have left to make: three for a unit that waits, two for one that a worker
has received, and one for one that is being run. -/
def weight (s : Shared) : Nat :=
  3 * s.pool.queue.length + s.pool.running.length + s.pool.running.countP fun t => !t.begun

theorem Work.weight_lt (h : Work s s') : s'.weight < s.weight := by
  cases h with
  | @receive t q htake =>
    obtain ⟨rest, hqueue, -, rfl⟩ := start?_eq_some htake
    have hone : [t].countP (fun t => !t.begun) ≤ 1 := List.countP_le_length
    simp only [weight, hqueue, List.length_cons, List.length_append, List.countP_append,
      List.length_nil]
    omega
  | @begin j t ht hfresh =>
    obtain ⟨hj, hget⟩ := List.getElem?_eq_some_iff.mp ht
    have hbefore := (List.getElem_cons_eraseIdx_perm hj).countP_eq fun t => !t.begun
    have hafter :=
      (List.set_perm_cons_eraseIdx hj { t with begun := true }).countP_eq fun t => !t.begun
    rw [hget, List.countP_cons_of_pos (by simp [hfresh])] at hbefore
    rw [List.countP_cons_of_neg (by simp)] at hafter
    simp only [weight, update, List.length_set]
    omega
  | @finish j t ht =>
    have hj := (List.getElem?_eq_some_iff.mp ht).1
    have hfewer := (List.eraseIdx_sublist s.pool.running j).countP_le (p := fun t => !t.begun)
    simp only [weight, Pool.finish, List.length_eraseIdx_of_lt hj]
    omega

/-- Workers can go on as long as there is a unit left. -/
theorem Orderly.units_eq_nil {size : Size} (h : Orderly size s) (hworkers : 0 < size.workers)
    (hstuck : ∀ s', ¬ Work s s') : s.pool.units = [] := by
  -- A unit that a worker has can be begun or finished, whichever is next.
  have hrunning : s.pool.running = [] := by
    cases hrun : s.pool.running with
    | nil => rfl
    | cons t rest =>
      have ht : s.pool.running[0]? = some t := by rw [hrun]; rfl
      cases hbegun : t.begun with
      | false => exact absurd (.begin ht hbegun) (hstuck _)
      | true => exact absurd (.finish ht hbegun false) (hstuck _)
  -- All workers are free then, and one of them could receive what waits.
  have hqueue : s.pool.queue = [] := by
    cases hwait : s.pool.queue with
    | nil => rfl
    | cons t rest =>
      have htake : s.pool.start? = some (t, { s.pool with queue := rest, running := [t] }) := by
        simp only [start?, hwait, hrunning, h.size_eq, List.length_nil, hworkers, ↓reduceIte,
          List.nil_append]
      exact absurd (.receive htake) (hstuck _)
  rw [units, hqueue, hrunning]
  rfl

end Courier.Pool.Shared
