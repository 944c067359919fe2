import Courier.Proofs.Pool.Order

/-! What holds of a shared pool at any time: where its units are, how often they were run, and what
its counters say.
A step takes a unit, refuses one, begins one, ends one, or does nothing to the units. -/
namespace Courier.Pool

/-- How many units were refused, for whatever reason. -/
def Counters.rejected (n : Counters) : Nat := n.closed + n.saturated

/-- The numbers of the calls that are so. -/
def callsThat (f : Submission → Bool) (cs : List Submission) : List Nat :=
  (List.range cs.length).filter fun i => cs[i]?.any f

section Calls

variable {f : Submission → Bool} {cs : List Submission} {i : Nat} {c d : Submission}

theorem mem_callsThat : i ∈ callsThat f cs ↔ ∃ c, cs[i]? = some c ∧ f c = true := by
  rw [callsThat, List.mem_filter, List.mem_range, Option.any_eq_true]
  constructor
  · exact And.right
  · rintro ⟨c, hc, hf⟩
    exact ⟨(List.getElem?_eq_some_iff.mp hc).1, c, hc, hf⟩

theorem nodup_callsThat (f : Submission → Bool) (cs : List Submission) :
    (callsThat f cs).Nodup :=
  List.nodup_range.filter _

theorem callsThat_append (h : f c = false) : callsThat f (cs ++ [c]) = callsThat f cs := by
  have hlast : (cs ++ [c])[cs.length]? = some c := List.getElem?_concat_length
  have hold : ∀ i ∈ List.range cs.length, (cs ++ [c])[i]?.any f = cs[i]?.any f := by
    intro i hi
    rw [List.getElem?_append_left (List.mem_range.mp hi)]
  rw [callsThat, List.length_append, List.length_singleton, List.range_succ, List.filter_append,
    List.filter_congr hold, List.filter_singleton, hlast, Option.any_some, h]
  exact List.append_nil _

/-- A call that comes further and stays as it was in this respect. -/
theorem callsThat_set_same (hc : cs[i]? = some c) (h : f d = f c) :
    callsThat f (cs.set i d) = callsThat f cs := by
  rw [callsThat, List.length_set, callsThat]
  apply List.filter_congr
  intro j _
  by_cases hij : i = j
  · subst hij
    rw [List.getElem?_set_self (List.getElem?_eq_some_iff.mp hc).1, hc, Option.any_some,
      Option.any_some, h]
  · rw [List.getElem?_set_ne hij]

/-- A call that comes further and has become so by that. -/
theorem callsThat_set_new (hc : cs[i]? = some c) (h : f c = false) (hd : f d = true) :
    (callsThat f (cs.set i d)).Perm (i :: callsThat f cs) := by
  have hlength : i < cs.length := (List.getElem?_eq_some_iff.mp hc).1
  have hnew : i ∉ callsThat f cs := by
    intro hi
    obtain ⟨c', hc', hf⟩ := mem_callsThat.mp hi
    rw [hc] at hc'
    cases hc'
    rw [h] at hf
    cases hf
  rw [List.perm_ext_iff_of_nodup (nodup_callsThat f _)
    (List.nodup_cons.mpr ⟨hnew, nodup_callsThat f cs⟩)]
  intro j
  rw [List.mem_cons, mem_callsThat, mem_callsThat]
  by_cases hij : i = j
  · subst hij
    rw [List.getElem?_set_self hlength]
    exact ⟨fun _ => .inl rfl, fun _ => ⟨d, rfl, hd⟩⟩
  · rw [List.getElem?_set_ne hij]
    exact ⟨.inr, fun hj => hj.resolve_left (Ne.symm hij)⟩

end Calls

namespace Shared

/-- The calls whose units the pool has taken. -/
def accepted (s : Shared) : List Nat := callsThat Submission.accepted s.calls

/-- The calls whose units the pool has refused. -/
def refused (s : Shared) : List Nat := callsThat Submission.refused s.calls

def queued (s : Shared) : List Nat := s.pool.queue.map Ticket.call

def running (s : Shared) : List Nat := s.pool.running.map Ticket.call

/-- The units that were taken, refused and finished, as the counters have them. -/
def tally (s : Shared) : Nat × Nat × Nat :=
  (s.pool.counters.submitted, s.pool.counters.rejected, s.pool.counters.completed)

variable {s s' : Shared}

/-- What a step can do to the units. -/
inductive Effect (s s' : Shared) : Prop
  | still (hunits : s'.pool.units.Perm s.pool.units) (haccepted : s'.accepted = s.accepted)
      (hrefused : s'.refused = s.refused) (hbegun : s'.begun = s.begun)
      (hfinished : s'.finished = s.finished) (htally : s'.tally = s.tally)
  | took {i : Nat} (hunits : s'.pool.units.Perm (({ call := i } : Ticket) :: s.pool.units))
      (haccepted : s'.accepted.Perm (i :: s.accepted)) (hrefused : s'.refused = s.refused)
      (hbegun : s'.begun = s.begun) (hfinished : s'.finished = s.finished)
      (htally : s'.tally = (s.tally.1 + 1, s.tally.2.1, s.tally.2.2))
  | refused {i : Nat} (hunits : s'.pool.units = s.pool.units) (haccepted : s'.accepted = s.accepted)
      (hrefused : s'.refused.Perm (i :: s.refused)) (hbegun : s'.begun = s.begun)
      (hfinished : s'.finished = s.finished)
      (htally : s'.tally = (s.tally.1, s.tally.2.1 + 1, s.tally.2.2))
  | began {t : Ticket} {others : List Ticket} (hfresh : t.begun = false)
      (hunits : s.pool.units.Perm (t :: others))
      (hunits' : s'.pool.units.Perm ({ t with begun := true } :: others))
      (haccepted : s'.accepted = s.accepted) (hrefused : s'.refused = s.refused)
      (hbegun : s'.begun = s.begun ++ [t.call]) (hfinished : s'.finished = s.finished)
      (htally : s'.tally = s.tally)
  | ended {t : Ticket} (hdone : t.begun = true) (hunits : s.pool.units.Perm (t :: s'.pool.units))
      (haccepted : s'.accepted = s.accepted) (hrefused : s'.refused = s.refused)
      (hbegun : s'.begun = s.begun) (hfinished : s'.finished = s.finished ++ [t.call])
      (htally : s'.tally = (s.tally.1, s.tally.2.1, s.tally.2.2 + 1))

theorem Work.effect (h : Work s s') : Effect s s' := by
  cases h with
  | receive htake =>
    have hunits := start?_units htake
    obtain ⟨rest, -, -, rfl⟩ := start?_eq_some htake
    exact .still hunits rfl rfl rfl rfl rfl
  | begin ht hfresh =>
    exact .began hfresh (units_perm_of_running ht) (update_units ht _) rfl rfl rfl rfl rfl
  | finish ht hdone panicked =>
    exact .ended hdone (finish_units ht panicked) rfl rfl rfl rfl rfl

/-- The pool takes a unit or refuses it, and counts it as what it was. -/
theorem effect_answer {i : Nat} {seen : State} {q : Pool Ticket} {reply : Option SubmitError}
    (hc : s.calls[i]? = some ⟨true, .inside seen⟩)
    (h : s.pool.submit (some { call := i }) = (q, reply)) :
    Effect s { s with pool := q, calls := s.calls.set i ⟨true, .answered reply⟩ } := by
  rcases submit_cases h with ⟨rfl, -, rfl⟩ | ⟨rfl, -, -, rfl⟩ | ⟨rfl, -, -, rfl⟩
  · refine .refused rfl (callsThat_set_same hc rfl) (callsThat_set_new hc rfl rfl) rfl rfl ?_
    simp only [tally, Counters.rejected, Nat.add_right_comm]
  · exact .refused rfl (callsThat_set_same hc rfl) (callsThat_set_new hc rfl rfl) rfl rfl rfl
  · refine .took ?_ (callsThat_set_new hc rfl rfl) (callsThat_set_same hc rfl) rfl rfl rfl
    change ((s.pool.queue ++ [({ call := i } : Ticket)]) ++ s.pool.running).Perm _
    rw [List.append_assoc]
    exact List.perm_middle

theorem Step.effect {size : Size} (h : Step s s') (hs : Orderly size s) : Effect s s' := by
  cases h with
  | work hwork => exact hwork.effect
  | call given =>
    have hrefused : Submission.refused { given } = false := by cases given <;> rfl
    exact .still .rfl (callsThat_append rfl) (callsThat_append hrefused) rfl rfl rfl
  | missing hc hsubmit =>
    cases hsubmit
    exact .still .rfl (callsThat_set_same hc rfl) (callsThat_set_same hc rfl) rfl rfl rfl
  | enter hc | leave hc =>
    exact .still .rfl (callsThat_set_same hc rfl) (callsThat_set_same hc rfl) rfl rfl rfl
  | answer hc hsubmit =>
    rw [submitSeeing_eq (hs.fits _ (List.mem_of_getElem? hc))] at hsubmit
    exact effect_answer hc hsubmit
  | exit | expire => exact .still .rfl rfl rfl rfl rfl rfl
  | close =>
    refine .still (by rw [close_units]) rfl rfl rfl rfl ?_
    simp only [tally, close_counters]
  | depart =>
    refine .still (by rw [terminate_units]) rfl rfl rfl rfl ?_
    simp only [tally, terminate_counters]

/-- What holds of the accounts at any time. -/
structure Accounts (s : Shared) : Prop where
  placed : (s.pool.units.map Ticket.call ++ s.finished).Perm s.accepted
  runs : s.begun.Perm ((s.pool.units.filter Ticket.begun).map Ticket.call ++ s.finished)
  tally : s.tally = (s.accepted.length, s.refused.length, s.finished.length)

namespace Accounts

theorem start (size : Size) : Accounts (start size) := ⟨.nil, .nil, rfl⟩

theorem placed_step (hs : Accounts s) (h : Effect s s') :
    (s'.pool.units.map Ticket.call ++ s'.finished).Perm s'.accepted := by
  have hplaced := hs.placed
  cases h with
  | still hunits haccepted _ _ hfinished =>
    rw [haccepted, hfinished]
    exact ((hunits.map _).append_right _).trans hplaced
  | took hunits haccepted _ _ hfinished =>
    rw [hfinished]
    exact ((hunits.map _).append_right _).trans ((hplaced.cons _).trans haccepted.symm)
  | refused hunits haccepted _ _ hfinished =>
    rw [haccepted, hunits, hfinished]
    exact hplaced
  | began _ hunits hunits' haccepted _ _ hfinished =>
    rw [haccepted, hfinished]
    -- The unit keeps its number.
    have hsame : (s'.pool.units.map Ticket.call).Perm (s.pool.units.map Ticket.call) :=
      (hunits'.map _).trans (hunits.map Ticket.call).symm
    exact (hsame.append_right _).trans hplaced
  | @ended t _ hunits haccepted _ _ hfinished =>
    rw [haccepted, hfinished, ← List.append_assoc]
    have hmove : ((s'.pool.units.map Ticket.call ++ s.finished) ++ [t.call]).Perm
        (t.call :: (s'.pool.units.map Ticket.call ++ s.finished)) := List.perm_append_singleton _ _
    have hback : (t.call :: (s'.pool.units.map Ticket.call ++ s.finished)).Perm
        (s.pool.units.map Ticket.call ++ s.finished) :=
      ((hunits.map Ticket.call).append_right s.finished).symm
    exact hmove.trans (hback.trans hplaced)

theorem runs_step (hs : Accounts s) (h : Effect s s') :
    s'.begun.Perm ((s'.pool.units.filter Ticket.begun).map Ticket.call ++ s'.finished) := by
  have hruns := hs.runs
  -- The numbers of the units that are being run.
  have hfilter {ts us : List Ticket} (h : ts.Perm us) :
      ((ts.filter Ticket.begun).map Ticket.call).Perm ((us.filter Ticket.begun).map Ticket.call) :=
    (h.filter _).map _
  cases h with
  | still hunits _ _ hbegun hfinished | took hunits _ _ hbegun hfinished =>
    rw [hbegun, hfinished]
    exact hruns.trans ((hfilter hunits).symm.append_right _)
  | refused hunits _ _ hbegun hfinished =>
    rw [hbegun, hunits, hfinished]
    exact hruns
  | @began t others hfresh hunits hunits' _ _ hbegun hfinished =>
    rw [hbegun, hfinished]
    -- The unit was not among those that are being run, and is now.
    have hbefore := hfilter hunits
    have hafter := hfilter hunits'
    rw [List.filter_cons_of_neg (by simp [hfresh])] at hbefore
    rw [List.filter_cons_of_pos rfl] at hafter
    have hone : (s.begun ++ [t.call]).Perm (t.call :: s.begun) := List.perm_append_singleton _ _
    have hall := (hruns.trans (hbefore.append_right _)).cons t.call
    exact hone.trans (hall.trans (hafter.append_right s.finished).symm)
  | @ended t hdone hunits _ _ hbegun hfinished =>
    rw [hbegun, hfinished, ← List.append_assoc]
    -- The unit goes from those that are being run to those that are finished.
    have hbefore := hfilter hunits
    rw [List.filter_cons_of_pos hdone] at hbefore
    have hall := hruns.trans (hbefore.append_right s.finished)
    exact hall.trans (List.perm_append_singleton _ _).symm

theorem tally_step (hs : Accounts s) (h : Effect s s') :
    s'.tally = (s'.accepted.length, s'.refused.length, s'.finished.length) := by
  cases h with
  | still _ haccepted hrefused _ hfinished htally =>
    rw [htally, hs.tally, haccepted, hrefused, hfinished]
  | took _ haccepted hrefused _ hfinished htally =>
    rw [htally, hs.tally, haccepted.length_eq, hrefused, hfinished, List.length_cons]
  | refused _ haccepted hrefused _ hfinished htally =>
    rw [htally, hs.tally, haccepted, hrefused.length_eq, hfinished, List.length_cons]
  | began _ _ _ haccepted hrefused _ hfinished htally =>
    rw [htally, hs.tally, haccepted, hrefused, hfinished]
  | ended _ _ haccepted hrefused _ hfinished htally =>
    rw [htally, hs.tally, haccepted, hrefused, hfinished, List.length_append, List.length_singleton]

theorem step (hs : Accounts s) (h : Effect s s') : Accounts s' :=
  ⟨hs.placed_step h, hs.runs_step h, hs.tally_step h⟩

theorem places (hs : Accounts s) : (s.queued ++ s.running ++ s.finished).Perm s.accepted := by
  rw [queued, running, ← List.map_append]
  exact hs.placed

/-- The units that were run, those that are being run and those that are finished, are among all. -/
theorem begun_sublist (s : Shared) :
    ((s.pool.units.filter Ticket.begun).map Ticket.call ++ s.finished).Sublist
      (s.pool.units.map Ticket.call ++ s.finished) :=
  (List.filter_sublist.map _).append_right _

theorem nodup_begun (hs : Accounts s) : s.begun.Nodup := by
  have hplaces : (s.pool.units.map Ticket.call ++ s.finished).Nodup :=
    hs.placed.nodup_iff.mpr (nodup_callsThat _ _)
  exact hs.runs.nodup_iff.mpr ((begun_sublist s).nodup hplaces)

theorem begun_subset (hs : Accounts s) : s.begun ⊆ s.accepted := by
  intro i hi
  exact hs.placed.subset ((begun_sublist s).subset (hs.runs.subset hi))

/-- With nothing left in the pool, what was accepted has been run once and is finished. -/
theorem of_units_eq_nil (hs : Accounts s) (h : s.pool.units = []) :
    s.finished.Perm s.accepted ∧ ∀ i ∈ s.accepted, s.begun.count i = 1 := by
  have hfinished : s.finished.Perm s.accepted := by
    have hplaced := hs.placed
    rwa [h] at hplaced
  have hruns : s.begun.Perm s.finished := by
    have hruns := hs.runs
    rwa [h] at hruns
  refine ⟨hfinished, fun i hi => ?_⟩
  rw [(hruns.trans hfinished).count_eq]
  exact List.count_eq_one_of_mem (nodup_callsThat _ _) hi

end Accounts

theorem Reachable.invariant {size : Size} (hworkers : 0 < size.workers) (h : Reachable size s) :
    Orderly size s ∧ Accounts s := by
  induction h with
  | refl => exact ⟨.start size, .start size⟩
  | tail _ hstep ih => exact ⟨ih.1.step hworkers hstep, ih.2.step (hstep.effect ih.1)⟩

/-- What holds of a shared pool at any time. -/
structure Sound (size : Size) (s : Shared) : Prop where
  /-- The pool is active, then shuts down, then has ended. -/
  moves : ∀ s', Step s s' → Moves s.pool.state s'.pool.state
  /-- A unit that was accepted is queued, running or finished, and only one of these. -/
  placed : ∀ i ∈ s.accepted, (s.queued ++ s.running ++ s.finished).count i = 1
  /-- No unit is run twice, and none is finished that was not run. -/
  once : ∀ i, s.begun.count i ≤ 1 ∧ (i ∈ s.finished → s.begun.count i = 1)
  /-- A unit that was refused, or not yet accepted, is not in the pool and is not run. -/
  never : ∀ i ∉ s.accepted, i ∉ s.queued ++ s.running ++ s.finished ∧ i ∉ s.begun
  /-- Workers come to an end with what they have, and then everything accepted was run. -/
  worked : (∀ s', Work s s' → s'.weight < s.weight) ∧ ((∀ s', ¬ Work s s') →
    ∀ i ∈ s.accepted, i ∈ s.finished ∧ s.begun.count i = 1)
  bounds : s.pool.queue.length ≤ size.capacity ∧ s.pool.running.length ≤ size.workers
  /-- Whoever hands in a unit is answered by the pool as it is then, and not as it was when they
  came: it is closed, or full, or takes the unit. -/
  answers : ∀ i seen q reply, s.calls[i]? = some ⟨true, .inside seen⟩ →
    s.pool.submitSeeing seen { call := i } = (q, reply) →
    s.pool.submit (some { call := i }) = (q, reply) ∧
    (reply = some .closed ↔ s.pool.state ≠ .active) ∧
    (reply = some .saturated ↔ s.pool.state = .active ∧ s.pool.queue.length = size.capacity) ∧
    (reply = none ↔ s.pool.state = .active ∧ s.pool.queue.length < size.capacity)
  /-- The answer that the pool is closed is still right when it is given. -/
  told : ∀ c ∈ s.calls, ∀ reply, c.stage = .answered reply →
    (reply = some .closed ↔ s.pool.state ≠ .active)
  terminated : s.pool.state = .terminated → s.pool.queue = [] ∧ s.pool.running = []
  counters : s.pool.counters.submitted = s.accepted.length ∧
    s.pool.counters.completed = s.finished.length ∧ s.pool.counters.rejected = s.refused.length
  /-- Once a shutdown has returned, everything that was accepted was run once and counted. -/
  returned : 0 < s.returned → s.pool.state = .terminated ∧
    s.pool.counters.submitted = s.pool.counters.completed ∧
    ∀ i ∈ s.accepted, i ∈ s.finished ∧ s.begun.count i = 1

/-- A pool with workers is sound at any time, whatever callers, workers and those who shut it down
have done, and in whatever order. -/
theorem sound_of_reachable {size : Size} (hworkers : 0 < size.workers) (h : Reachable size s) :
    Sound size s := by
  obtain ⟨horder, haccounts⟩ := h.invariant hworkers
  have hnodup : s.accepted.Nodup := nodup_callsThat _ _
  have hcounters : s.pool.counters.submitted = s.accepted.length ∧
      s.pool.counters.completed = s.finished.length ∧
      s.pool.counters.rejected = s.refused.length := by
    obtain ⟨hsubmitted, hrest⟩ := Prod.mk.inj haccounts.tally
    obtain ⟨hrejected, hcompleted⟩ := Prod.mk.inj hrest
    exact ⟨hsubmitted, hcompleted, hrejected⟩
  constructor
  case moves => exact fun s' hstep => hstep.moves
  case placed =>
    intro i hi
    rw [haccounts.places.count_eq]
    exact List.count_eq_one_of_mem hnodup hi
  case once =>
    intro i
    refine ⟨List.nodup_iff_count_le_one.mp haccounts.nodup_begun i, fun hi => ?_⟩
    have hrun : i ∈ s.begun := haccounts.runs.mem_iff.mpr (List.mem_append_right _ hi)
    exact List.count_eq_one_of_mem haccounts.nodup_begun hrun
  case never =>
    intro i hi
    exact ⟨mt haccounts.places.mem_iff.mp hi, mt (haccounts.begun_subset ·) hi⟩
  case worked =>
    refine ⟨fun s' hwork => hwork.weight_lt, fun hstuck i hi => ?_⟩
    obtain ⟨hfinished, hruns⟩ :=
      haccounts.of_units_eq_nil (horder.units_eq_nil hworkers hstuck)
    exact ⟨hfinished.mem_iff.mpr hi, hruns i hi⟩
  case bounds =>
    have hworkers_le := horder.workers_le
    exact ⟨horder.queue_le, by omega⟩
  case answers => exact fun i seen q reply hc hsubmit => horder.answers hc hsubmit
  case told =>
    intro c hc reply hstage
    have hfits := horder.fits c hc
    rwa [Fits, hstage] at hfits
  case terminated => exact fun hended => horder.idle hworkers (horder.ended hended)
  case counters => exact hcounters
  case returned =>
    intro hreturned
    have hended := horder.returned hreturned
    obtain ⟨hqueue, hrunning⟩ := horder.idle hworkers (horder.ended hended)
    have hunits : s.pool.units = [] := by rw [units, hqueue, hrunning]; rfl
    obtain ⟨hfinished, hruns⟩ := haccounts.of_units_eq_nil hunits
    refine ⟨hended, ?_, fun i hi => ⟨hfinished.mem_iff.mpr hi, hruns i hi⟩⟩
    rw [hcounters.1, hcounters.2.1, hfinished.length_eq]

/-- One worker, and a queue for one unit. Two callers have seen an active pool before either hands
in its unit, so that the second finds the queue full; a third comes when the pool is shutting down,
while the first unit runs, which crashes. The shutdown returns when the worker has gone home. -/
theorem sound_of_reachable_shutdown : ∃ s, Reachable ⟨1, 1⟩ s ∧ s.accepted = [0] ∧
    s.refused = [1, 2] ∧ s.pool.counters.panics = 1 ∧ s.returned = 1 ∧ Sound ⟨1, 1⟩ s := by
  have hrun : ∃ s, Reachable ⟨1, 1⟩ s ∧ s.accepted = [0] ∧
      s.refused = [1, 2] ∧ s.pool.counters.panics = 1 ∧ s.returned = 1 := by
    refine ⟨_, .head (.call true) <| .head (.call true) <| .head (.call true) <|
      .head (.enter (i := 0) rfl) <| .head (.enter (i := 1) rfl) <|
      .head (.answer (i := 0) rfl rfl) <| .head (.answer (i := 1) rfl rfl) <|
      .head (.leave (i := 0) rfl) <| .head (.leave (i := 1) rfl) <|
      .head (.close (by decide)) <|
      .head (.work (.receive rfl)) <| .head (.work (.begin (j := 0) rfl rfl)) <|
      .head (.enter (i := 2) rfl) <| .head (.answer (i := 2) rfl rfl) <|
      .head (.leave (i := 2) rfl) <| .head (.work (.finish (j := 0) rfl rfl true)) <|
      .head (.exit (by decide) rfl (by decide)) <| .head (.depart (by decide) rfl) <|
      .refl, ?_, ?_, ?_, ?_⟩
    · decide
    · decide
    · decide
    · decide
  obtain ⟨s, hreach, haccepted, hrefused, hpanics, hreturned⟩ := hrun
  exact ⟨s, hreach, haccepted, hrefused, hpanics, hreturned,
    sound_of_reachable (by decide) hreach⟩

end Shared
end Courier.Pool
