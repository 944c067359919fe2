import Courier.Proofs.Completion
import Courier.Proofs.Program.Layout
import Courier.Proofs.Service.Lifecycle

/-! Every message that the pool has taken is answered exactly once.
The argument is an account for each message: what is still to be answered and what was answered add
up to what was taken, and every step of the service keeps that balance. -/
namespace Courier.Concurrent

variable {τ : Type} {a : Admission τ} {k : Conduct} {s s' : State τ}

/-- The message of a call and the program it was resolved to, once the pool has taken it. -/
def taken (cs : List (Call τ)) (i : Nat) : Option (Message × Program) :=
  (cs[i]?).bind fun c => c.stage.taken.map fun p => (c.message, p)

/-- What the responder of a call was called with, in order. -/
def State.deliveries (s : State τ) (i : Nat) : List Result :=
  (s.outside.shared.entries.filter fun e => e.1 = i).map Prod.snd

/-- How many units of a call are still to be completed. -/
def pending (ts : List (Task τ)) (i : Nat) : Nat :=
  ts.countP fun t => t.call = i ∧ t.job.handle.completed = false

theorem Stage.program_of_taken {stage : Stage} {p : Program} (h : stage.taken = some p) :
    stage.program = some p := by
  cases stage with
  | queued q | accepted q => exact h
  | arrived | resolved | claimed | refused | rejected => cases h

theorem mem_deliveries {i : Nat} {r : Result} :
    r ∈ s.deliveries i ↔ (i, r) ∈ s.outside.shared.entries := by
  simp [State.deliveries]

/-! ### What each operation does to the accounts -/

theorem taken_append (cs : List (Call τ)) (m : Message) (r : Option (Responder τ)) :
    taken (cs ++ [⟨m, r, .arrived⟩]) = taken cs :=
  bind_getElem?_concat cs rfl

theorem taken_set {cs : List (Call τ)} {i : Nat} {c : Call τ} (hc : cs[i]? = some c)
    (stage : Stage) : taken (cs.set i { c with stage }) =
      Function.update (taken cs) i (stage.taken.map fun p => (c.message, p)) :=
  bind_getElem?_set _ hc _

theorem taken_of_getElem? {cs : List (Call τ)} {i : Nat} {c : Call τ} (hc : cs[i]? = some c) :
    taken cs i = c.stage.taken.map fun p => (c.message, p) := by
  rw [taken, hc]
  rfl

/-- A call that goes on without being taken, or after it was, leaves the accounts as they are. -/
theorem taken_set_eq {cs : List (Call τ)} {i : Nat} {c : Call τ} (hc : cs[i]? = some c)
    {stage : Stage} (hstage : stage.taken = c.stage.taken) :
    taken (cs.set i { c with stage }) = taken cs := by
  rw [taken_set hc, hstage, ← taken_of_getElem? hc, Function.update_eq_self]

theorem identify_entries {m m' : Message} {o o' : Outside (Ledger τ)}
    (h : (recorded a).identify m o = (m', o')) : o'.shared.entries = o.shared.entries := by
  unfold Admission.identify at h
  split_ifs at h
  · cases h
    rfl
  · cases h
    rfl

theorem claim_entries {id : String} {l l' : Ledger τ} {r : Except (Reason × Fault) Unit}
    (h : (recorded a).claim id l = (l', r)) : l'.entries = l.entries := by
  have hfst : l' = ((recorded a).claim id l).1 := by rw [h]
  rw [hfst, Admission.claim, recorded]
  cases a.claims with
  | none => rfl
  | some c =>
    dsimp only [Option.map_some, Claimer.focus]
    split
    all_goals
      rename_i heq
      exact (congrArg (fun r => r.1.entries) heq).symm

theorem release_entries {id : String} {l l' : Ledger τ} {f : Option Fault}
    (h : (recorded a).release id l = (l', f)) : l'.entries = l.entries := by
  have hfst : l' = ((recorded a).release id l).1 := by rw [h]
  rw [hfst, Admission.release, recorded]
  cases a.claims <;> rfl

/-- A result is handed to the responder unless the handle was completed before. -/
theorem deliver_entries {t : Task τ} {answer : Responder τ}
    (h : t.job.handle.responder = some (Outside.lift (Ledger.record t.call answer)))
    (x : Execution) (o : Outside (Ledger τ)) :
    (t.job.deliver x o).shared.entries = o.shared.entries ++
      (if t.job.handle.completed then [] else [(t.call, t.job.handle.addressed x.result)]) := by
  change (t.job.handle.complete x.result o).state.shared.entries = _
  cases hdone : t.job.handle.completed with
  | true =>
    rw [Once.complete_state_again hdone, if_pos rfl, List.append_nil]
  | false =>
    rw [Once.complete_state hdone, h]
    rfl

/-- What a step can do to the accounts. -/
inductive Effect (k : Conduct) (s s' : State τ) : Prop
  | still (htaken : taken s'.calls = taken s.calls) (hunits : s'.pool.units.Perm s.pool.units)
      (hentries : s'.outside.shared.entries = s.outside.shared.entries)
  | queued {i : Nat} {c : Call τ} {p : Program} (hfresh : taken s.calls i = none)
      (hresponder : c.responder.isSome)
      (htaken : taken s'.calls = Function.update (taken s.calls) i (some (c.message, p)))
      (hunits : s'.pool.units.Perm (c.task i p :: s.pool.units))
      (hentries : s'.outside.shared.entries = s.outside.shared.entries)
  | ran {t : Task τ} {others : List (Task τ)} {look : Interrupts}
      (hlook : look = .never ∨ Expired s.closings)
      (htaken : taken s'.calls = taken s.calls) (hunits : s.pool.units.Perm (t :: others))
      (hunits' : s'.pool.units.Perm
        (t.ran ((k.engine t.call).execute look t.job.context) :: others))
      (hentries : s'.outside.shared.entries = s.outside.shared.entries)
  | delivered {t : Task τ} {others : List (Task τ)} {x : Execution} (hrun : t.job.run = some x)
      (htaken : taken s'.calls = taken s.calls) (hunits : s.pool.units.Perm (t :: others))
      (hunits' : s'.pool.units.Perm (t.handed x s.outside :: others))
      (houtside : s'.outside = t.job.deliver x s.outside)
  | finished {t : Task τ} (hdone : t.job.handle.completed = true)
      (htaken : taken s'.calls = taken s.calls) (hunits : s.pool.units.Perm (t :: s'.pool.units))
      (hentries : s'.outside.shared.entries = s.outside.shared.entries)

theorem Step.effect (h : Step a k s s') (hpool : Orderly s.pool s.closings)
    (hsound : Sound s.registry s.calls) : Effect k s s' := by
  cases h with
  | arrive m r hid => exact .still (taken_append ..) .rfl (identify_entries hid)
  | resolve hc hstage | unresolved hc hstage =>
    exact .still (taken_set_eq hc (by rw [hstage]; rfl)) .rfl rfl
  | claim hc hstage hclaim | unclaimed hc hstage hclaim =>
    exact .still (taken_set_eq hc (by rw [hstage]; rfl)) .rfl (claim_entries hclaim)
  | @submit i c p _ hc hstage hsubmit =>
    obtain ⟨-, n, rfl⟩ := Pool.submit_eq_none hsubmit
    have hfresh : taken s.calls i = none := by
      rw [taken_of_getElem? hc, hstage]
      rfl
    have hresponder : c.responder.isSome :=
      (hsound.calls i c p hc (by rw [hstage]; rfl)).1
    refine .queued hfresh hresponder (taken_set hc _) ?_ rfl
    change ((s.pool.queue ++ [c.task i p]) ++ s.pool.running).Perm _
    rw [List.append_assoc]
    exact List.perm_middle
  | refuse hc hstage hsubmit =>
    obtain ⟨n, rfl⟩ := Pool.submit_eq_some hsubmit
    exact .still (taken_set_eq hc (by rw [hstage]; rfl)) .rfl rfl
  | release hc hstage hrelease =>
    exact .still (taken_set_eq hc (by rw [hstage]; rfl)) .rfl (release_entries hrelease)
  | accept hc hstage => exact .still (taken_set_eq hc (by rw [hstage]; rfl)) .rfl rfl
  | register | unregister | elapse | expire => exact .still rfl .rfl rfl
  | take htake => exact .still rfl (Pool.start?_units htake) rfl
  | @run j t x o ht hrun look hlook hexecute =>
    -- A run is called off only by a pool that was told to cancel while it had units left, which is
    -- what a shutdown does that runs out of time.
    have hlate : look = .never ∨ Expired s.closings := by
      cases hcanceled : s.pool.canceled with
      | false => exact .inl (hlook hcanceled)
      | true =>
        rcases hpool.canceled hcanceled with he | hended
        · exact .inr he
        · have hmem := Pool.mem_units_of_running ht
          rw [hpool.ended hended] at hmem
          cases hmem
    rw [Job.execute, hrun] at hexecute
    cases hexecute
    exact .ran hlate rfl (Pool.units_perm_of_running ht) (Pool.update_units ht _) rfl
  | deliver ht hrun =>
    exact .delivered hrun rfl (Pool.units_perm_of_running ht) (Pool.update_units ht _) rfl
  | finish ht hdone => exact .finished hdone rfl (Pool.finish_units ht false) rfl
  | close => exact .still rfl (by rw [Pool.close_units]) rfl
  | drained => exact .still rfl (by rw [Pool.terminate_units]) rfl

theorem Effect.taken_mono (h : Effect k s s') {i : Nat} {v : Message × Program}
    (hv : taken s.calls i = some v) : taken s'.calls i = some v := by
  cases h with
  | still htaken | ran _ htaken | delivered _ htaken | finished _ htaken =>
    rw [htaken]
    exact hv
  | @queued j c p hfresh _ htaken =>
    have hne : i ≠ j := by
      rintro rfl
      rw [hfresh] at hv
      cases hv
    rw [htaken, Function.update_of_ne hne]
    exact hv

/-! ### The accounts -/

/-- A result that a message is due: that of running it with the program it was resolved to, called
off only if the time for a shutdown was over. -/
def Due (k : Conduct) (s : State τ) (i : Nat) (r : Result) : Prop :=
  ∃ m p look, taken s.calls i = some (m, p) ∧ (look = .never ∨ Expired s.closings) ∧
    r = ((k.engine i).execute look (Context.start m (some p))).result

/-- A unit that was made for a message the pool has taken, and has run as it should if it has. -/
structure Honest (k : Conduct) (s : State τ) (t : Task τ) : Prop where
  origin : ∃ m p, taken s.calls t.call = some (m, p) ∧
    t.job.context = Context.start m (some p) ∧ t.job.handle.messageId = m.id
  responder : ∃ answer, t.job.handle.responder = some (Outside.lift (Ledger.record t.call answer))
  run : ∀ x, t.job.run = some x → Due k s t.call x.result

/-- What holds of the accounts at any time. -/
structure Accounts (k : Conduct) (s : State τ) : Prop where
  balance : ∀ i, pending s.pool.units i + (s.deliveries i).length =
    (taken s.calls i).toList.length
  units : ∀ t ∈ s.pool.units, Honest k s t
  entries : ∀ e ∈ s.outside.shared.entries, Due k s e.1 e.2

section Mono

variable (htaken : ∀ {i v}, taken s.calls i = some v → taken s'.calls i = some v)
  (hexpired : Expired s.closings → Expired s'.closings)

include htaken hexpired

theorem Due.mono {i : Nat} {r : Result} (h : Due k s i r) : Due k s' i r := by
  obtain ⟨m, p, look, hmp, hlook, hr⟩ := h
  exact ⟨m, p, look, htaken hmp, hlook.imp_right hexpired, hr⟩

theorem Honest.mono {t : Task τ} (h : Honest k s t) : Honest k s' t := by
  obtain ⟨m, p, hmp, horigin⟩ := h.origin
  exact ⟨⟨m, p, htaken hmp, horigin⟩, h.responder,
    fun x hx => (h.run x hx).mono htaken hexpired⟩

end Mono

/-- What a message is due carries its id. -/
theorem Due.messageId {i : Nat} {r : Result} (h : Due k s i r) {m : Message} {p : Program}
    (hmp : taken s.calls i = some (m, p)) : r.messageId = m.id := by
  obtain ⟨m', p', look, hmp', -, rfl⟩ := h
  rw [hmp] at hmp'
  cases hmp'
  exact Engine.execute_messageId (k.keeps i) look _

theorem pending_perm {ts us : List (Task τ)} (h : ts.Perm us) (i : Nat) :
    pending ts i = pending us i :=
  h.countP_eq _

theorem pending_cons (t : Task τ) (ts : List (Task τ)) (i : Nat) :
    pending (t :: ts) i =
      pending ts i + if t.call = i ∧ t.job.handle.completed = false then 1 else 0 := by
  rw [pending, List.countP_cons, pending]
  simp only [decide_eq_true_eq]

theorem deliveries_append (s : State τ) {es : List (Nat × Result)}
    (h : s'.outside.shared.entries = s.outside.shared.entries ++ es) (i : Nat) :
    s'.deliveries i = s.deliveries i ++ (es.filter fun e => e.1 = i).map Prod.snd := by
  rw [State.deliveries, h, List.filter_append, List.map_append, State.deliveries]

theorem deliveries_eq (h : s'.outside.shared.entries = s.outside.shared.entries) (i : Nat) :
    s'.deliveries i = s.deliveries i := by
  rw [State.deliveries, h, State.deliveries]

/-- A handed unit is completed, and is otherwise what it was. -/
theorem handed_handle (t : Task τ) (x : Execution) (o : Outside (Ledger τ)) :
    (t.handed x o).job.handle = { t.job.handle with completed := true } :=
  Once.complete_handle ..

/-- The step of the balance. Taking a message adds one to both sides; handing over its result moves
one from what is to be answered to what was answered. -/
theorem Accounts.balance_step (hs : Accounts k s) (h : Effect k s s') (i : Nat) :
    pending s'.pool.units i + (s'.deliveries i).length = (taken s'.calls i).toList.length := by
  have hbalance := hs.balance i
  cases h with
  | still htaken hunits hentries =>
    rw [pending_perm hunits, deliveries_eq hentries, htaken]
    exact hbalance
  | @queued j c p hfresh _ htaken hunits hentries =>
    rw [pending_perm hunits, pending_cons, deliveries_eq hentries, htaken]
    by_cases hij : j = i
    · subst hij
      rw [hfresh] at hbalance
      -- One more unit is pending, for a message of which nothing was taken before.
      rw [if_pos ⟨rfl, rfl⟩, Function.update_self]
      simp only [Option.toList_none, Option.toList_some, List.length_nil,
        List.length_singleton] at hbalance ⊢
      omega
    · rw [if_neg (fun hand => hij hand.1), Function.update_of_ne (Ne.symm hij)]
      exact hbalance
  | @ran t others look _ htaken hunits hunits' hentries =>
    rw [pending_perm hunits, pending_cons] at hbalance
    rw [pending_perm hunits', pending_cons, deliveries_eq hentries, htaken]
    exact hbalance
  | @delivered t others x hrun htaken hunits hunits' houtside =>
    obtain ⟨answer, hanswer⟩ := (hs.units t (hunits.mem_iff.mpr List.mem_cons_self)).responder
    have hentries := deliver_entries hanswer x s.outside
    rw [← houtside] at hentries
    rw [pending_perm hunits, pending_cons] at hbalance
    rw [pending_perm hunits', pending_cons, handed_handle, deliveries_append s hentries, htaken,
      List.length_append]
    cases hdone : t.job.handle.completed with
    | true =>
      -- A handle that was completed before reaches nobody.
      simp only [hdone, Bool.true_eq_false, and_false, ↓reduceIte, List.filter_nil, List.map_nil,
        List.length_nil, Nat.add_zero] at hbalance ⊢
      exact hbalance
    | false =>
      simp only [hdone, and_true, Bool.true_eq_false, and_false, ↓reduceIte, Bool.false_eq_true,
        Nat.add_zero] at hbalance ⊢
      -- The unit is no longer pending, and what it handed over is on record.
      by_cases hti : t.call = i
      · simp only [hti, ↓reduceIte, decide_true, List.filter_cons_of_pos, List.filter_nil,
          List.map_cons, List.map_nil, List.length_singleton] at hbalance ⊢
        omega
      · simp only [hti, ↓reduceIte, decide_false, Bool.false_eq_true, not_false_eq_true,
          List.filter_cons_of_neg, List.filter_nil, List.map_nil, List.length_nil,
          Nat.add_zero] at hbalance ⊢
        exact hbalance
  | @finished t hdone htaken hunits hentries =>
    -- A unit that ends was completed, so it was not pending.
    rw [pending_perm hunits, pending_cons, hdone, if_neg (by simp)] at hbalance
    rw [deliveries_eq hentries, htaken]
    exact hbalance

/-- A unit hands over just the result of its run. -/
theorem Honest.addressed {t : Task τ} (h : Honest k s t) {x : Execution} (hx : t.job.run = some x) :
    t.job.handle.addressed x.result = x.result := by
  obtain ⟨m, p, hmp, -, hid⟩ := h.origin
  exact Once.addressed_eq (((h.run x hx).messageId hmp).trans hid.symm)

theorem Accounts.units_step (hs : Accounts k s) (h : Effect k s s')
    (hexpired : Expired s.closings → Expired s'.closings) :
    ∀ t ∈ s'.pool.units, Honest k s' t := by
  have hold {t : Task τ} (ht : t ∈ s.pool.units) : Honest k s' t :=
    (hs.units t ht).mono h.taken_mono hexpired
  intro u hu
  cases h with
  | still _ hunits => exact hold (hunits.mem_iff.mp hu)
  | @queued i c p _ hresponder htaken hunits =>
    rcases List.mem_cons.mp (hunits.mem_iff.mp hu) with rfl | hu
    -- The unit that was just made has not run yet.
    · obtain ⟨answer, hanswer⟩ := Option.isSome_iff_exists.mp hresponder
      refine ⟨⟨c.message, p, ?_, rfl, rfl⟩, ⟨answer, ?_⟩, fun x hx => by cases hx⟩
      · rw [htaken]
        exact Function.update_self ..
      · change c.responder.map _ = _
        rw [hanswer]
        rfl
    · exact hold hu
  | @ran t others look hlook _ hunits hunits' =>
    rcases List.mem_cons.mp (hunits'.mem_iff.mp hu) with rfl | hu
    · have ht := hold (hunits.mem_iff.mpr List.mem_cons_self)
      obtain ⟨m, p, hmp, hcontext, hid⟩ := ht.origin
      refine ⟨⟨m, p, hmp, hcontext, hid⟩, ht.responder, fun x hx => ?_⟩
      cases hx
      -- It has run from the context it was made with.
      exact ⟨m, p, look, hmp, hlook.imp_right hexpired, by rw [hcontext]; rfl⟩
    · exact hold (hunits.mem_iff.mpr (List.mem_cons_of_mem t hu))
  | @delivered t others x _ _ hunits hunits' =>
    rcases List.mem_cons.mp (hunits'.mem_iff.mp hu) with rfl | hu
    · have ht := hold (hunits.mem_iff.mpr List.mem_cons_self)
      obtain ⟨m, p, hmp, hcontext, hid⟩ := ht.origin
      refine ⟨⟨m, p, hmp, hcontext, ?_⟩, ?_, ht.run⟩
      · rw [handed_handle]
        exact hid
      · rw [handed_handle]
        exact ht.responder
    · exact hold (hunits.mem_iff.mpr (List.mem_cons_of_mem t hu))
  | @finished t _ _ hunits => exact hold (hunits.mem_iff.mpr (List.mem_cons_of_mem t hu))

theorem Accounts.entries_step (hs : Accounts k s) (h : Effect k s s')
    (hexpired : Expired s.closings → Expired s'.closings) :
    ∀ e ∈ s'.outside.shared.entries, Due k s' e.1 e.2 := by
  have hmono {i : Nat} {r : Result} (hr : Due k s i r) : Due k s' i r :=
    hr.mono h.taken_mono hexpired
  intro e he
  cases h with
  | still _ _ hentries | queued _ _ _ _ hentries | ran _ _ _ _ hentries
  | finished _ _ _ hentries =>
    rw [hentries] at he
    exact hmono (hs.entries e he)
  | @delivered t others x hrun _ hunits _ houtside =>
    have ht := hs.units t (hunits.mem_iff.mpr List.mem_cons_self)
    obtain ⟨answer, hanswer⟩ := ht.responder
    rw [houtside, deliver_entries hanswer, ht.addressed hrun] at he
    rcases List.mem_append.mp he with he | he
    · exact hmono (hs.entries e he)
    · split_ifs at he
      · cases he
      · rw [List.mem_singleton.mp he]
        exact hmono (ht.run x hrun)

/-- All that every reachable state has. -/
structure Invariant (k : Conduct) (s : State τ) : Prop where
  orderly : Orderly s.pool s.closings
  sound : Sound s.registry s.calls
  accounts : Accounts k s

theorem Invariant.start (k : Conduct) (size : Pool.Size) (w : τ) :
    Invariant k (State.start size w) where
  orderly :=
    { closed := fun h => absurd rfl h
      ended := fun _ => rfl
      canceled := fun h => by cases h
      returned := fun _ => rfl }
  sound :=
    { registry := fun e he => by cases he
      calls := fun i c p hc => by cases hc }
  accounts :=
    { balance := fun _ => rfl
      units := fun t ht => by cases ht
      entries := fun e he => by cases he }

theorem Invariant.step (hs : Invariant k s) (h : Step a k s s') : Invariant k s' := by
  have heffect := h.effect hs.orderly hs.sound
  exact ⟨h.orderly hs.orderly, h.sound hs.sound, hs.accounts.balance_step heffect,
    hs.accounts.units_step heffect h.expired, hs.accounts.entries_step heffect h.expired⟩

theorem Reachable.invariant (h : Reachable a k s) : Invariant k s := by
  obtain ⟨size, w, hrun⟩ := h
  induction hrun with
  | refl => exact Invariant.start k size w
  | tail _ hstep ih => exact ih.step hstep

/-- What a message that the pool has taken is answered with when the shutdown left it its time. -/
theorem Due.result_eq {i : Nat} {r : Result} (h : Due k s i r) (htime : ¬ Expired s.closings)
    {m : Message} {p : Program} (hmp : taken s.calls i = some (m, p)) :
    r = ((k.engine i).execute .never (Context.start m (some p))).result := by
  obtain ⟨m', p', look, hmp', hlook, rfl⟩ := h
  rw [hmp] at hmp'
  cases hmp'
  rw [hlook.resolve_right htime]

/-- A program that passes its check ends in its result when no observer crashes. -/
theorem execute_checked {e : Engine} (hv : e.visitor.Keeps) {p : Program} (hp : p.check = .ok ())
    (m : Message)
    (hquiet : ∀ ev ∈ (e.execute .never (Context.start m (some p))).events, e.tell ev = none) :
    ∃ err, (e.execute .never (Context.start m (some p))).outcome =
      .finished (e.execute .never (Context.start m (some p))).result err := by
  obtain ⟨-, g, hg, hcheck⟩ := (Program.check_eq_ok_iff p).mp hp
  refine Engine.execute_finished hv (fun g' hg' => ?_) .never hquiet
  have hsame : p.graph = some g' := hg'
  rw [hg] at hsame
  cases hsame
  exact (Graph.placed_of_check hcheck).slot?_ne_gap

/-- Every message is answered at most once, and never if it was rejected. Once a shutdown has
returned, every message that was taken has been answered exactly once, with a result that carries
its id. If no shutdown ran out of time, that is the result of running the message with the program
it was resolved to when it came in, which the run itself returns if no observer it told crashed. -/
theorem answered_exactly_once (h : Reachable a k s) {i : Nat} {c : Call τ}
    (hc : s.calls[i]? = some c) :
    (s.deliveries i).length ≤ 1 ∧
      (∀ r, c.stage = .rejected r → s.deliveries i = []) ∧
      ∀ p, c.stage.taken = some p → Returned s.closings →
        (∃ s₀, Reachable a k s₀ ∧ Relation.ReflTransGen (Step a k) s₀ s ∧
          Admission.resolve s₀.registry c.message c.responder.isSome = .ok p) ∧
        ∃ r, s.deliveries i = [r] ∧ r.messageId = c.message.id ∧
          (¬ Expired s.closings →
            r = ((k.engine i).execute .never (Context.start c.message (some p))).result ∧
            ((∀ ev ∈ ((k.engine i).execute .never (Context.start c.message (some p))).events,
                (k.engine i).tell ev = none) →
              ∃ err, ((k.engine i).execute .never (Context.start c.message (some p))).outcome =
                .finished r err)) := by
  have hinv := h.invariant
  have hbalance := hinv.accounts.balance i
  have htaken := taken_of_getElem? hc
  -- A message is taken once at most, and its balance bounds what was answered.
  have hle : (taken s.calls i).toList.length ≤ 1 := by
    cases taken s.calls i with
    | none => exact Nat.zero_le 1
    | some v => exact Nat.le_refl 1
  refine ⟨by omega, fun r hr => ?_, fun p hp hreturned => ?_⟩
  · rw [htaken, hr] at hbalance
    have hzero : (s.deliveries i).length = 0 := by
      change _ = 0 at hbalance
      omega
    exact List.eq_nil_of_length_eq_zero hzero
  · have hprogram := Stage.program_of_taken hp
    have hmp : taken s.calls i = some (c.message, p) := by rw [htaken, hp]; rfl
    have hempty := hinv.orderly.returned hreturned
    -- Nothing is left to be answered, so what was taken was answered.
    have hone : (s.deliveries i).length = 1 := by
      rw [hempty, hmp] at hbalance
      change 0 + _ = 1 at hbalance
      omega
    obtain ⟨r, hr⟩ := List.length_eq_one_iff.mp hone
    have hdue : Due k s i r :=
      hinv.accounts.entries (i, r) (mem_deliveries.mp (hr ▸ List.mem_cons_self))
    refine ⟨h.resolved hc hprogram, r, hr, hdue.messageId hmp, fun htime => ?_⟩
    have hresult := hdue.result_eq htime hmp
    refine ⟨hresult, fun hquiet => ?_⟩
    obtain ⟨-, hcheck⟩ := hinv.sound.calls i c p hc hprogram
    rw [hresult]
    exact execute_checked (k.keeps i) hcheck c.message hquiet

/-- A message that is taken, whose program is then unregistered, and that is run only after the pool
was shut down. -/
theorem answered_exactly_once_unregistered :
    ∃ (s : State Unit) (c : Call Unit) (p : Program) (r : Result),
      Reachable { freshId := fun w => ("m1", w) }
        { engine := fun _ => {}, keeps := fun _ => Visitor.standard_keeps } s ∧
      s.calls[0]? = some c ∧ c.stage = .accepted p ∧ Returned s.closings ∧ s.registry = [] ∧
      s.deliveries 0 = [r] ∧ r.messageId = "m1" ∧ r.status = .success := by
  have h := Reachable.start { freshId := fun w => ("m1", w) }
      { engine := fun _ => {}, keeps := fun _ => Visitor.standard_keeps } ⟨1, 1⟩ ()
    |>.step (.register (p := (⟨"greet", "", "", none, [.reply (.lit .null)]⟩ : Draft).program) rfl)
    |>.step (.arrive ⟨"", "greet", none, none⟩ (some fun _ w => (w, .done)) rfl)
    |>.step (.resolve (i := 0) rfl rfl rfl)
    |>.step (.unregister "greet")
    |>.step (.claim (i := 0) rfl rfl rfl)
    |>.step (.submit (i := 0) rfl rfl rfl)
    |>.step .close
    |>.step (.take rfl)
    |>.step (.run (j := 0) rfl rfl .never (fun _ => rfl) rfl)
    |>.step (.accept (i := 0) rfl rfl)
    |>.step (.deliver (j := 0) rfl rfl)
    |>.step (.finish (j := 0) rfl rfl)
    |>.step (.drained (j := 0) rfl rfl rfl)
  have hreturned : Returned [({ returned := true } : Closing)] := ⟨_, List.mem_cons_self, rfl⟩
  have htime : ¬ Expired [({ returned := true } : Closing)] := by
    rintro ⟨z, hz, he⟩
    cases List.mem_singleton.mp hz
    cases he
  obtain ⟨-, -, hanswered⟩ := answered_exactly_once h (i := 0) rfl
  obtain ⟨-, r, hr, hid, hrun⟩ := hanswered _ rfl hreturned
  obtain ⟨hresult, -⟩ := hrun htime
  exact ⟨_, _, _, r, h, rfl, rfl, hreturned, rfl, hr, hid, by rw [hresult]; rfl⟩

end Courier.Concurrent
