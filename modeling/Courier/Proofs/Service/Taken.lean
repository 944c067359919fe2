import Courier.Proofs.Registry
import Courier.Proofs.Service.Rejected
import Courier.Service.Basic

/-! Messages that are taken.
The job of such a message is the last one in the queue of the pool; all that was checked before it held,
and nobody's slot was touched. -/
namespace Courier

variable {σ π : Type}

/-- The job of a message. -/
def Job.ofMessage (m : Message) (p : Program) (responder : Option (Responder (Outside σ))) : Job σ :=
  ⟨Context.start m (some p), { messageId := m.id, responder }, none⟩

/-- The job of a message as a worker finds it: as it was handed over, or with a run whose result was held
back. -/
inductive Job.Awaits (e : Engine) (m : Message) (p : Program) (responder : Responder (Outside σ)) :
    Job σ → Prop
  | fresh : Awaits e m p responder (.ofMessage m p (some responder))
  | heldBack (look : Interrupts) : Awaits e m p responder
      { Job.ofMessage m p (some responder) with run := some (e.execute look (Context.start m (some p))) }

/-- The run that a worker delivers is one of the message, made now or before. -/
theorem Job.Awaits.execute {e : Engine} {m : Message} {p : Program} {responder : Responder (Outside σ)}
    {t : Job σ} (ht : t.Awaits e m p responder) (observed : Event → List Log.Entry) (look : Interrupts)
    (o : Outside σ) :
    t.handle = { messageId := m.id, responder := some responder } ∧
    { t with run := some (t.execute e observed look o).1 }.Awaits e m p responder ∧
    (∃ look', (t.execute e observed look o).1 = e.execute look' (Context.start m (some p))) ∧
    (t.execute e observed look o).2.shared = o.shared := by
  cases ht with
  | fresh => exact ⟨rfl, .heldBack look, ⟨look, rfl⟩, rfl⟩
  | heldBack look' => exact ⟨rfl, .heldBack look', ⟨look', rfl⟩, rfl⟩

theorem Admission.identify_boxes (a : Admission σ) (m : Message) (o : Outside σ) :
    (a.identify m o).2.boxes = o.boxes := by
  unfold identify
  split_ifs <;> rfl

/-- Of a message that is taken, the job was handed to the pool. -/
theorem Admission.receive_handsOver {a : Admission σ} {registry : Registry}
    {submit : Job σ → π → π × Option Fault} {m : Message} {responder : Option (Responder (Outside σ))}
    {o : Outside σ} {pool : π} (h : (a.receive registry submit m responder o pool).rejection = none) :
    ∃ p, resolve registry (a.identify m o).1 responder.isSome = .ok p ∧
      submit (.ofMessage (a.identify m o).1 p responder) pool =
        ((a.receive registry submit m responder o pool).pool, none) ∧
      (a.receive registry submit m responder o pool).outside.boxes = o.boxes := by
  have hboxes := a.identify_boxes m o
  -- Every way that does not lead to the pool ends in a rejection, and so does a refusal by the pool.
  rw [receive] at h ⊢
  generalize a.identify m o = identified at h hboxes ⊢
  obtain ⟨m', o'⟩ := identified
  dsimp only at h hboxes ⊢
  cases hresolve : resolve registry m' responder.isSome with
  | error e =>
    rw [hresolve] at h
    cases h
  | ok p =>
    refine ⟨p, rfl, ?_⟩
    rw [hresolve] at h
    dsimp only at h ⊢
    rcases hclaim : a.claim m'.id o'.shared with ⟨s, e | u⟩
    · rw [hclaim] at h
      cases h
    rw [hclaim] at h
    dsimp only at h ⊢
    rcases hsubmit : submit (.ofMessage m' p responder) pool with ⟨pool', _ | f⟩
    · unfold Job.ofMessage at hsubmit
      rw [hsubmit]
      exact ⟨rfl, hboxes⟩
    · unfold Job.ofMessage at hsubmit
      rw [hsubmit] at h
      cases h

/-- What all that is asked of the shared state keeps is kept when a message is taken or turned away. The
slots stay as they are, and the pool is handed nothing but the job of the message. -/
theorem Admission.receive_keeps {a : Admission σ} {I : σ → Prop} (hfresh : ∀ t, I t → I (a.freshId t).2)
    (hclaim : ∀ id t, I t → I (a.claim id t).1) (hrelease : ∀ id t, I t → I (a.release id t).1)
    (registry : Registry) (submit : Job σ → π → π × Option Fault) (m : Message)
    (responder : Option (Responder (Outside σ))) {o : Outside σ} (pool : π) (ho : I o.shared) :
    let receipt := a.receive registry submit m responder o pool
    I receipt.outside.shared ∧ receipt.outside.boxes = o.boxes ∧
      (receipt.pool = pool ∨ ∃ p, resolve registry (a.identify m o).1 responder.isSome = .ok p ∧
        receipt.pool = (submit (.ofMessage (a.identify m o).1 p responder) pool).1) := by
  have hboxes := a.identify_boxes m o
  have hidentified : I (a.identify m o).2.shared := by
    unfold identify
    split_ifs
    · exact hfresh _ ho
    · exact ho
  rw [receive]
  generalize a.identify m o = identified at hboxes hidentified ⊢
  obtain ⟨m', o'⟩ := identified
  dsimp only at hboxes hidentified ⊢
  cases hresolve : resolve registry m' responder.isSome with
  | error e => exact ⟨hidentified, hboxes, .inl rfl⟩
  | ok p =>
    have hclaimed := hclaim m'.id _ hidentified
    dsimp only
    rcases hanswer : a.claim m'.id o'.shared with ⟨t, e | u⟩
    · rw [hanswer] at hclaimed
      exact ⟨hclaimed, hboxes, .inl rfl⟩
    · rw [hanswer] at hclaimed
      dsimp only
      rcases hsubmit : submit (.ofMessage m' p responder) pool with ⟨pool', answer⟩
      have hhanded : pool' = (submit (.ofMessage m' p responder) pool).1 := by rw [hsubmit]
      unfold Job.ofMessage at hsubmit
      rw [hsubmit]
      cases answer with
      | none => exact ⟨hclaimed, hboxes, .inr ⟨p, rfl, hhanded⟩⟩
      | some f => exact ⟨hrelease _ _ hclaimed, hboxes, .inr ⟨p, rfl, hhanded⟩⟩

namespace Service

variable {setup : Setup σ} {m : Message} {responder : Option (Responder (Outside σ))} {s : Service σ}

theorem receive_handsOver (h : (s.receive setup m responder).2 = none) :
    ∃ p, Admission.resolve s.registry (setup.admission.identify m s.outside).1 responder.isSome = .ok p ∧
      s.pool.submit (some (.ofMessage (setup.admission.identify m s.outside).1 p responder)) =
        ((s.receive setup m responder).1.pool, none) ∧
      (s.receive setup m responder).1.outside.boxes = s.outside.boxes := by
  obtain ⟨p, hresolve, hsubmit, hboxes⟩ := Admission.receive_handsOver h
  obtain ⟨hpool, hfault⟩ := Prod.mk.inj hsubmit
  exact ⟨p, hresolve, Prod.ext hpool (Option.map_eq_none_iff.mp hfault), hboxes⟩

/-- A message that has an id keeps it. -/
theorem receive_taken (hid : m.id ≠ "") (h : (s.receive setup m responder).2 = none) :
    ∃ p, s.registry.program m.program = .ok p ∧
      s.pool.submit (some (.ofMessage m p responder)) = ((s.receive setup m responder).1.pool, none) := by
  have hidentify : setup.admission.identify m s.outside = (m, s.outside) := if_neg hid
  obtain ⟨p, hresolve, hsubmit, -⟩ := receive_handsOver h
  rw [hidentify] at hresolve hsubmit
  exact ⟨p, (Admission.resolve_eq_ok hresolve).2.1, hsubmit⟩

/-- The same for a service, when the message has an id. -/
theorem receive_keeps (responder : Option (Responder (Outside σ))) {I : σ → Prop}
    (hfresh : ∀ t, I t → I (setup.admission.freshId t).2)
    (hclaim : ∀ id t, I t → I (setup.admission.claim id t).1)
    (hrelease : ∀ id t, I t → I (setup.admission.release id t).1) (hid : m.id ≠ "")
    (hs : I s.outside.shared) :
    let after := (s.receive setup m responder).1
    I after.outside.shared ∧ after.outside.boxes = s.outside.boxes ∧
      ∀ t ∈ after.pool.units, t ∈ s.pool.units ∨
        ∃ p, s.registry.program m.program = .ok p ∧ t = .ofMessage m p responder := by
  have hidentify : setup.admission.identify m s.outside = (m, s.outside) := if_neg hid
  obtain ⟨hkept, hboxes, hpool⟩ := Admission.receive_keeps hfresh hclaim hrelease s.registry
    (fun t (l : Pool.Lazy (Job σ)) =>
      ((l.submit (some t)).1, (l.submit (some t)).2.map Pool.SubmitError.fault)) m responder s.pool hs
  rw [hidentify] at hpool
  refine ⟨hkept, hboxes, fun t ht => ?_⟩
  rcases hpool with hsame | ⟨p, hresolve, hsubmitted⟩
  · exact .inl (hsame ▸ ht)
  · have ht' : t ∈ (s.pool.submit (some (.ofMessage m p responder))).1.units := hsubmitted ▸ ht
    rcases Pool.Lazy.mem_units_submit ht' with hold | ⟨-, rfl⟩
    · exact .inl hold
    · exact .inr ⟨p, (Admission.resolve_eq_ok hresolve).2.1, rfl⟩

end Service
end Courier
