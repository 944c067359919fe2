import Courier.Pool.Settle
import Mathlib.Data.List.Perm.Basic

/-! What each operation of a pool does to its units, in whatever order they stand.
Refusing a unit changes nothing but counters; only the end of a unit takes it out.
A pool that works until it can go no further keeps what each piece of work keeps. When no unit waits for
anything, all units are run to their end, those that a worker has first and the others as they came. -/
namespace Courier.Pool

variable {α : Type} {p q : Pool α} {u v : α}

/-- The units that wait and those that run. -/
def units (p : Pool α) : List α := p.queue ++ p.running

theorem isIdle_iff : p.isIdle = true ↔ p.units = [] := by
  simp [isIdle, units]

theorem mem_units_of_running {k : Nat} (h : p.running[k]? = some u) : u ∈ p.units :=
  List.mem_append_right _ (List.mem_of_getElem? h)

/-- The three answers to a unit: a pool that is not active refuses it, an active one whose queue is
full refuses it, and else it goes to the end of the queue. -/
theorem submit_cases {e : Option SubmitError} (h : p.submit (some u) = (q, e)) :
    (e = some .closed ∧ p.state ≠ .active ∧
      q = { p with counters := { p.counters with closed := p.counters.closed + 1 } }) ∨
    (e = some .saturated ∧ p.state = .active ∧ p.size.capacity ≤ p.queue.length ∧
      q = { p with counters := { p.counters with saturated := p.counters.saturated + 1 } }) ∨
    (e = none ∧ p.state = .active ∧ p.queue.length < p.size.capacity ∧
      q = { p with
        queue := p.queue ++ [u]
        counters := { p.counters with submitted := p.counters.submitted + 1 } }) := by
  unfold submit at h
  split_ifs at h with hstate hfull
  · cases h
    exact .inl ⟨rfl, hstate, rfl⟩
  · cases h
    exact .inr (.inl ⟨rfl, not_not.mp hstate, hfull, rfl⟩)
  · cases h
    exact .inr (.inr ⟨rfl, not_not.mp hstate, Nat.lt_of_not_le hfull, rfl⟩)

/-- Only an active pool takes a unit, and it takes it to the end of the queue. -/
theorem submit_eq_none (h : p.submit (some u) = (q, none)) :
    p.state = .active ∧ ∃ n, q = { p with queue := p.queue ++ [u], counters := n } := by
  rcases submit_cases h with ⟨he, -⟩ | ⟨he, -⟩ | ⟨-, hactive, -, rfl⟩
  · cases he
  · cases he
  · exact ⟨hactive, _, rfl⟩

theorem submit_eq_some {e : SubmitError} (h : p.submit (some u) = (q, some e)) :
    ∃ n, q = { p with counters := n } := by
  rcases submit_cases h with ⟨-, -, rfl⟩ | ⟨-, -, -, rfl⟩ | ⟨he, -⟩
  · exact ⟨_, rfl⟩
  · exact ⟨_, rfl⟩
  · cases he

theorem start?_eq_some (h : p.start? = some (u, q)) :
    ∃ rest, p.queue = u :: rest ∧ p.running.length < p.size.workers ∧
      q = { p with queue := rest, running := p.running ++ [u] } := by
  unfold start? at h
  split at h
  · cases h
  · next head rest hqueue =>
    split_ifs at h with hfree
    cases h
    exact ⟨rest, hqueue, hfree, rfl⟩

/-- A unit that is taken by a worker stays in the pool. -/
theorem start?_units (h : p.start? = some (u, q)) : q.units.Perm p.units := by
  obtain ⟨rest, hqueue, -, rfl⟩ := start?_eq_some h
  -- The unit goes from the front of the queue to the end of those that run.
  have hmove : ((rest ++ p.running) ++ [u]).Perm (u :: (rest ++ p.running)) :=
    List.perm_append_singleton u _
  rw [units, units, hqueue, ← List.append_assoc]
  exact hmove

/-- A unit that runs, apart from all others. -/
theorem units_perm_of_running {k : Nat} (h : p.running[k]? = some u) :
    p.units.Perm (u :: (p.queue ++ p.running.eraseIdx k)) := by
  obtain ⟨hk, hu⟩ := List.getElem?_eq_some_iff.mp h
  have hsplit := List.getElem_cons_eraseIdx_perm hk
  rw [hu] at hsplit
  exact (hsplit.symm.append_left p.queue).trans List.perm_middle

theorem update_units {k : Nat} (h : p.running[k]? = some u) (v : α) :
    (p.update k v).units.Perm (v :: (p.queue ++ p.running.eraseIdx k)) := by
  obtain ⟨hk, -⟩ := List.getElem?_eq_some_iff.mp h
  have hset := List.set_perm_cons_eraseIdx hk v
  exact (hset.append_left p.queue).trans List.perm_middle

theorem finish_units {k : Nat} (h : p.running[k]? = some u) (panicked : Bool) :
    p.units.Perm (u :: (p.finish k panicked).units) :=
  units_perm_of_running h

@[simp] theorem close_units (p : Pool α) : p.close.units = p.units := by
  unfold close
  split_ifs <;> rfl

@[simp] theorem close_counters (p : Pool α) : p.close.counters = p.counters := by
  unfold close
  split_ifs <;> rfl

@[simp] theorem terminate_units (p : Pool α) : p.terminate.units = p.units := by
  unfold terminate
  split_ifs <;> rfl

@[simp] theorem terminate_counters (p : Pool α) : p.terminate.counters = p.counters := by
  unfold terminate
  split_ifs <;> rfl

section Settled

variable {σ : Type} {work : Work α σ}

/-- Work that keeps what holds of units and of the state they work on. -/
def Work.Keeps (work : Work α σ) (J : α → Prop) (I : σ → Prop) : Prop :=
  ∀ stop u s, J u → I s → I (work stop u s).1 ∧ ∀ v, (work stop u s).2 = .waits v → J v

section Kept

variable {J : α → Prop} {I : σ → Prop}

/-- What became of a unit that runs is noted: it goes on, or it is gone. -/
theorem note_keeps {i : Nat} {u : α} (hu : p.running[i]? = some u) (hp : ∀ v ∈ p.units, J v)
    {made : Progress α} (hmade : ∀ v, made = .waits v → J v) : ∀ v ∈ (note i p made).units, J v := by
  have hothers : ∀ v ∈ p.queue ++ p.running.eraseIdx i, J v := fun v hv =>
    hp v ((units_perm_of_running hu).mem_iff.mpr (List.mem_cons_of_mem u hv))
  intro v hv
  cases made with
  | waits w =>
    rcases List.mem_cons.mp ((update_units hu w).mem_iff.mp hv) with rfl | hv
    · exact hmade v rfl
    · exact hothers v hv
  | ended b => exact hothers v hv

theorem goOn_keeps (hwork : work.Keeps J I) (n : Nat) {i : Nat} {s : σ} (hp : ∀ u ∈ p.units, J u)
    (hs : I s) : (∀ u ∈ (goOn work n i p s).1.units, J u) ∧ I (goOn work n i p s).2 := by
  induction n generalizing i p s with
  | zero => exact ⟨hp, hs⟩
  | succ n ih =>
    rw [goOn]
    split
    · exact ⟨hp, hs⟩
    · next u hu =>
      obtain ⟨hworked, hwaits⟩ := hwork p.canceled u s (hp u (mem_units_of_running hu)) hs
      have hnoted := note_keeps hu hp hwaits
      rcases hmade : work p.canceled u s with ⟨s', v | b⟩
      all_goals
        rw [hmade] at hworked hnoted
        exact ih hnoted hworked

theorem drain_keeps (hwork : work.Keeps J I) (n : Nat) {s : σ} (hp : ∀ u ∈ p.units, J u) (hs : I s) :
    (∀ u ∈ (drain work n p s).1.units, J u) ∧ I (drain work n p s).2 := by
  induction n generalizing p s with
  | zero => exact ⟨hp, hs⟩
  | succ n ih =>
    rw [drain]
    split
    · exact ⟨hp, hs⟩
    · next u q hstart =>
      have hq : ∀ v ∈ q.units, J v := fun v hv => hp v ((start?_units hstart).mem_iff.mp hv)
      have hu : q.running[p.running.length]? = some u := by
        obtain ⟨rest, -, -, rfl⟩ := start?_eq_some hstart
        exact List.getElem?_concat_length
      obtain ⟨hworked, hwaits⟩ := hwork q.canceled u s (hq u (mem_units_of_running hu)) hs
      exact ih (note_keeps hu hq hwaits) hworked

theorem settle_keeps (hwork : work.Keeps J I) {s : σ} (hp : ∀ u ∈ p.units, J u) (hs : I s) :
    (∀ u ∈ (settle work p s).1.units, J u) ∧ I (settle work p s).2 := by
  obtain ⟨hwent, hstate⟩ := goOn_keeps hwork p.running.length (i := 0) hp hs
  obtain ⟨hdrained, hstate'⟩ :=
    drain_keeps hwork (goOn work p.running.length 0 p s).1.queue.length hwent hstate
  rw [settle]
  dsimp only
  rw [terminate_units]
  exact ⟨hdrained, hstate'⟩

/-- The units behind a handle. -/
def Lazy.units (l : Lazy α) : List α := l.pool.elim [] Pool.units

theorem Lazy.settle_keeps (hwork : work.Keeps J I) {l : Lazy α} {s : σ} (hl : ∀ u ∈ l.units, J u)
    (hs : I s) : (∀ u ∈ (l.settle work s).1.units, J u) ∧ I (l.settle work s).2 := by
  unfold Lazy.settle
  cases hpool : l.pool with
  | none => exact ⟨hl, hs⟩
  | some p =>
    rw [Lazy.units, hpool] at hl
    exact Pool.settle_keeps hwork hl hs

theorem Lazy.close_units (l : Lazy α) : l.close.units = l.units := by
  unfold Lazy.close Lazy.units
  cases l.pool with
  | none => rfl
  | some p => exact Pool.close_units p

theorem Lazy.mem_units_build {l : Lazy α} {u : α} (h : u ∈ l.build.units) : u ∈ l.units := by
  unfold Lazy.build at h
  split_ifs at h
  · exact h
  · cases h
  · cases h

/-- A handle that has no pool once it had its chance to build one refuses every unit. -/
theorem Lazy.submit_of_none {l : Lazy α} (h : l.build.pool = none) (u : α) :
    l.submit (some u) = (l.build, some .closed) := by
  simp only [submit, h]

/-- Else it does with a unit what that pool does. -/
theorem Lazy.submit_of_some {l : Lazy α} {p : Pool α} (h : l.build.pool = some p) (u : α) :
    l.submit (some u) =
      ({ l.build with pool := some (p.submit (some u)).1 }, (p.submit (some u)).2) := by
  simp only [submit, h]

/-- A handle that is given a unit has no other new one. -/
theorem Lazy.mem_units_submit {l : Lazy α} {u v : α} (h : v ∈ (l.submit (some u)).1.units) :
    v ∈ l.units ∨ (l.submit (some u)).2 = none ∧ v = u := by
  cases hbuilt : l.build.pool with
  | none =>
    rw [Lazy.submit_of_none hbuilt] at h
    exact .inl (Lazy.mem_units_build h)
  | some p =>
    have hold (w : α) (hw : w ∈ p.units) : w ∈ l.units := by
      apply Lazy.mem_units_build
      rw [Lazy.units, hbuilt]
      exact hw
    rw [Lazy.submit_of_some hbuilt] at h ⊢
    rcases hanswer : p.submit (some u) with ⟨q, _ | e⟩
    · obtain ⟨-, n, rfl⟩ := submit_eq_none hanswer
      rw [hanswer] at h
      rcases List.mem_append.mp h with h | h
      · rcases List.mem_append.mp h with h | h
        · exact .inl (hold v (List.mem_append_left _ h))
        · exact .inr ⟨rfl, List.mem_singleton.mp h⟩
      · exact .inl (hold v (List.mem_append_right _ h))
    · obtain ⟨n, rfl⟩ := submit_eq_some hanswer
      rw [hanswer] at h
      exact .inl (hold v h)

end Kept

/-- No unit ever waits. -/
def Work.Ends (work : Work α σ) : Prop := ∀ stop u s, ∃ b, (work stop u s).2 = .ended b

theorem Work.Ends.exists_eq (h : work.Ends) (stop : Bool) (u : α) (s : σ) :
    ∃ b, work stop u s = ((work stop u s).1, .ended b) := by
  obtain ⟨b, hended⟩ := h stop u s
  exact ⟨b, Prod.ext rfl hended⟩

/-- What units leave that are run one after the other. -/
def Work.inTurn (work : Work α σ) (stop : Bool) (us : List α) (s : σ) : σ :=
  us.foldl (fun s u => (work stop u s).1) s

theorem goOn_ended (hwork : work.Ends) (p : Pool α) (s : σ) : ∃ counters,
    goOn work p.running.length 0 p s =
      ({ p with running := [], counters }, work.inTurn p.canceled p.running s) := by
  obtain ⟨size, state, queue, running, canceled, counters⟩ := p
  induction running generalizing counters s with
  | nil => exact ⟨counters, rfl⟩
  | cons u running ih =>
    obtain ⟨b, hmade⟩ := hwork.exists_eq canceled u s
    dsimp only [List.length_cons]
    rw [goOn]
    dsimp only [List.getElem?_cons_zero]
    rw [hmade]
    -- The unit is gone, and the next one has taken its place.
    exact ih (work canceled u s).1 _

theorem drain_ended (hwork : work.Ends) (p : Pool α) (hfree : p.running = [])
    (hworkers : 0 < p.size.workers) (s : σ) : ∃ counters,
    drain work p.queue.length p s =
      ({ p with queue := [], counters }, work.inTurn p.canceled p.queue s) := by
  obtain ⟨size, state, queue, running, canceled, counters⟩ := p
  subst hfree
  induction queue generalizing counters s with
  | nil => exact ⟨counters, rfl⟩
  | cons u queue ih =>
    obtain ⟨b, hmade⟩ := hwork.exists_eq canceled u s
    have htake : (⟨size, state, u :: queue, [], canceled, counters⟩ : Pool α).start? =
        some (u, ⟨size, state, queue, [u], canceled, counters⟩) := if_pos hworkers
    dsimp only [List.length_cons]
    rw [drain, htake]
    dsimp only
    rw [hmade]
    exact ih (work canceled u s).1 _ hworkers

/-- All units are run in turn. -/
theorem settle_ended (hwork : work.Ends) (hworkers : 0 < p.size.workers) (s : σ) :
    (settle work p s).2 = work.inTurn p.canceled (p.running ++ p.queue) s := by
  obtain ⟨counters, hran⟩ := goOn_ended hwork p s
  obtain ⟨counters', hdrained⟩ := drain_ended hwork { p with running := [], counters } rfl hworkers
    (work.inTurn p.canceled p.running s)
  rw [settle, hran]
  dsimp only at hdrained ⊢
  rw [hdrained, Work.inTurn, Work.inTurn, Work.inTurn, List.foldl_append]

end Settled
end Courier.Pool
