import Courier.Proofs.Completion
import Courier.Proofs.Pool.Operations
import Courier.Proofs.Run.Request
import Courier.Proofs.Service.Taken

/-! Messages whose sender waits for the result.
The sender's own responder comes behind all others. So it is reached unless one of them crashes; then the
round is over, and the sender waits for a result that never comes. -/
namespace Courier

variable {σ : Type} {box : Nat}

/-- A responder that has no part in a slot. -/
def Responder.Spares (box : Nat) (respond : Responder (Outside σ)) : Prop :=
  ∀ r o, (respond r o).1.boxes[box]? = o.boxes[box]?

namespace Responder

theorem spares_lift (respond : Responder σ) : Spares box (Outside.lift respond) := fun _ _ => rfl

theorem spares_boxResponder {i : Nat} (h : i ≠ box) :
    Spares box (Outside.boxResponder i : Responder (Outside σ)) := by
  intro r o
  exact List.getElem?_set_ne h

/-- An empty slot takes the result. -/
theorem boxResponder_fills {o : Outside σ} (h : o.boxes[box]? = some none) (r : Result) :
    (Outside.boxResponder box r o).1.boxes[box]? = some (some r) := by
  have hlength : box < o.boxes.length := (List.getElem?_eq_some_iff.mp h).1
  simp only [Outside.boxResponder, h, Option.join_some, Mailbox.respond]
  exact List.getElem?_set_self hlength

theorem spares_multi {rs : List (Option (Responder (Outside σ)))} (h : ∀ f, some f ∈ rs → f.Spares box) :
    Spares box (multi rs) := by
  intro r o
  exact callAll_keeps (P := fun o' => o'.boxes[box]? = o.boxes[box]?)
    (fun respond hmem o' ho' => (h respond hmem r o').trans ho') [] rfl

end Responder

/-- A job whose responder has no part in a slot. -/
def Job.Spares (box : Nat) (t : Job σ) : Prop := ∀ f, t.handle.responder = some f → f.Spares box

namespace Job

theorem execute_boxes (t : Job σ) (e : Engine) (observed : Event → List Log.Entry) (look : Interrupts)
    (o : Outside σ) : (t.execute e observed look o).2.boxes = o.boxes := by
  unfold execute
  split <;> rfl

theorem Spares.deliver {t : Job σ} (h : t.Spares box) (x : Execution) (o : Outside σ) :
    (t.deliver x o).boxes[box]? = o.boxes[box]? := by
  change (t.handle.complete x.result o).state.boxes[box]? = o.boxes[box]?
  cases hcompleted : t.handle.completed with
  | true => rw [Once.complete_state_again hcompleted]
  | false =>
    rw [Once.complete_state hcompleted]
    cases hresponder : t.handle.responder with
    | none => rfl
    | some respond => exact h respond hresponder _ o

end Job

namespace Service

/-- What a worker does when nothing is held back. -/
def promptly (setup : Setup σ) : Pool.Work (Job σ) (Outside σ) := work setup fun _ => false

theorem promptly_ends (setup : Setup σ) : (promptly setup).Ends := fun _ _ _ => ⟨false, rfl⟩

theorem promptly_spares {setup : Setup σ} {t : Job σ} (h : t.Spares box) (stop : Bool) (o : Outside σ) :
    (promptly setup stop t o).1.boxes[box]? = o.boxes[box]? := by
  have hdelivered := h.deliver (t.execute setup.engine setup.observed
    (fun _ => if stop then some .canceled else none) o).1 (t.execute setup.engine setup.observed
    (fun _ => if stop then some .canceled else none) o).2
  rw [Job.execute_boxes] at hdelivered
  exact hdelivered

theorem inTurn_spares (setup : Setup σ) {ts : List (Job σ)} (h : ∀ t ∈ ts, t.Spares box) (stop : Bool)
    (o : Outside σ) : ((promptly setup).inTurn stop ts o).boxes[box]? = o.boxes[box]? := by
  induction ts generalizing o with
  | nil => rfl
  | cons t ts ih =>
    obtain ⟨ht, hts⟩ := List.forall_mem_cons.mp h
    have hrest := ih hts (promptly setup stop t o).1
    rw [promptly_spares ht] at hrest
    exact hrest

/-- A pool that took a job has it at the end of its queue, behind those of the pool that was there. -/
theorem exists_pool {l l' : Pool.Lazy (Job σ)} (hsize : 0 < l.size.workers)
    (hpool : ∀ p, l.pool = some p → 0 < p.size.workers ∧ ∀ t ∈ p.units, t.Spares box) {job : Job σ}
    (hsubmit : l.submit (some job) = (l', none)) :
    ∃ q earlier, l'.pool = some q ∧ 0 < q.size.workers ∧ q.running ++ q.queue = earlier ++ [job] ∧
      ∀ t ∈ earlier, t.Spares box := by
  cases hbuilt : l.build.pool with
  | none =>
    rw [Pool.Lazy.submit_of_none hbuilt] at hsubmit
    cases hsubmit
  | some p =>
    rw [Pool.Lazy.submit_of_some hbuilt] at hsubmit
    rcases hanswer : p.submit (some job) with ⟨q, answer⟩
    rw [hanswer] at hsubmit
    obtain ⟨rfl, rfl⟩ := Prod.mk.inj hsubmit
    obtain ⟨-, n, rfl⟩ := Pool.submit_eq_none hanswer
    -- The pool was there before, or it is new and has no jobs.
    have hp : 0 < p.size.workers ∧ ∀ t ∈ p.units, t.Spares box := by
      unfold Pool.Lazy.build at hbuilt
      split_ifs at hbuilt
      · exact hpool p hbuilt
      · cases hbuilt
        exact ⟨hsize, List.forall_mem_nil _⟩
    refine ⟨_, p.running ++ p.queue, rfl, hp.1, (List.append_assoc _ _ _).symm, ?_⟩
    intro t ht
    exact hp.2 t (List.perm_append_comm.mem_iff.mp ht)

/-- What the slots hold after the pool has done all its jobs in turn. -/
theorem settle_boxes (setup : Setup σ) {s : Service σ} {q : Pool (Job σ)} (hq : s.pool.pool = some q)
    (hworkers : 0 < q.size.workers) : (s.settle setup fun _ => false).outside.boxes =
      ((promptly setup).inTurn q.canceled (q.running ++ q.queue) s.outside).boxes := by
  have hsettled := Pool.settle_ended (promptly_ends setup) hworkers s.outside
  have hlazy : s.pool.settle (promptly setup) s.outside =
      ({ s.pool with pool := some (q.settle (promptly setup) s.outside).1 },
        (q.settle (promptly setup) s.outside).2) := by
    rw [Pool.Lazy.settle, hq]
  change (s.pool.settle (promptly setup) s.outside).2.boxes = _
  rw [hlazy, hsettled]

/-- The job of a message, when a worker gets to it: the run that it makes, and the call of its responder. -/
theorem promptly_ofMessage (setup : Setup σ) (m : Message) (p : Program) (responder : Responder (Outside σ))
    (stop : Bool) (o : Outside σ) : ∃ look o' r, o'.boxes = o.boxes ∧
      r = (Job.ofMessage m p none : Job σ).handle.addressed
        (setup.engine.execute look (Context.start m (some p))).result ∧
      (promptly setup stop (.ofMessage m p (some responder)) o).1.boxes = (responder r o').1.boxes := by
  set look : Interrupts := fun _ => if stop then some .canceled else none
  refine ⟨look, ((Job.ofMessage m p (some responder)).execute setup.engine setup.observed look o).2, _,
    Job.execute_boxes _ _ _ _ _, rfl, ?_⟩
  have hcomplete := Once.complete_state (o := (Job.ofMessage m p (some responder)).handle) rfl
    (setup.engine.execute look (Context.start m (some p))).result
    ((Job.ofMessage m p (some responder)).execute setup.engine setup.observed look o).2
  have hboxes := congrArg Outside.boxes hcomplete
  exact hboxes

/-- A service with one more slot, in which there is nothing yet. -/
def opened (s : Service σ) : Service σ := { s with outside := s.outside.openBox.2 }

/-- The responder with which a message is sent: the sender's own, behind the others. -/
def sender (box : Nat) (extra : List (Option (Responder (Outside σ)))) : Responder (Outside σ) :=
  if extra.isEmpty then Outside.boxResponder box
  else Responder.multi (extra ++ [some (Outside.boxResponder box)])

/-- The sender finds in its slot what is there when the pool has worked. -/
theorem send_eq_ok {setup : Setup σ} {held : String → Bool} {m : Message}
    {extra : List (Option (Responder (Outside σ)))} {s : Service σ} {received : Option Result}
    (h : (s.send setup held m extra).2 = .ok received) :
    (s.opened.receive setup m (some (sender s.outside.boxes.length extra))).2 = none ∧
      received = (((s.opened.receive setup m (some (sender s.outside.boxes.length extra))).1.settle setup
        held).outside.boxes[s.outside.boxes.length]?).join := by
  unfold send at h
  dsimp only at h
  split at h
  · cases h
  · next hnone =>
    cases h
    exact ⟨hnone, rfl⟩

/-- What comes of the slot of a sender when all who are to be told are told: the sender is the last one, and
the others have left the slot as it was. -/
theorem sender_boxes {extra : List (Option (Responder (Outside σ)))}
    (hextra : ∀ f, some f ∈ extra → f.Spares box) (r : Result) {o : Outside σ}
    (hempty : o.boxes[box]? = some none) :
    (¬ (Responder.multi extra r o).2.Crashed ∧ (sender box extra r o).1.boxes[box]? = some (some r)) ∨
      ((Responder.multi extra r o).2.Crashed ∧ (sender box extra r o).1.boxes[box]? = some none) := by
  have hspared : (Responder.multi extra r o).1.boxes[box]? = some none :=
    (Responder.spares_multi hextra r o).trans hempty
  unfold sender
  split_ifs with hnobody
  · obtain rfl := List.isEmpty_iff.mp hnobody
    exact .inl ⟨Responder.callAll_nil_calm r [] o, Responder.boxResponder_fills hempty r⟩
  · rcases Responder.callAll_append extra [some (Outside.boxResponder box)] r [] o with
      ⟨hcrashed, heq⟩ | ⟨hcalm, faults, heq⟩
    · refine .inr ⟨hcrashed, ?_⟩
      rw [Responder.multi, heq]
      exact hspared
    · refine .inl ⟨hcalm, ?_⟩
      rw [Responder.multi, heq, Responder.callAll_singleton]
      exact Responder.boxResponder_fills hspared r

/-- What the sender of a message receives that is taken, and nothing is held back: the result of a run of
the message, unless one of the others crashes. -/
theorem send_receives (setup : Setup σ) {s : Service σ} (hsize : 0 < s.pool.size.workers)
    (hpool : ∀ p, s.pool.pool = some p →
      0 < p.size.workers ∧ ∀ t ∈ p.units, t.Spares s.outside.boxes.length)
    {extra : List (Option (Responder (Outside σ)))}
    (hextra : ∀ f, some f ∈ extra → f.Spares s.outside.boxes.length)
    {m : Message} {received : Option Result}
    (hsend : (s.send setup (fun _ => false) m extra).2 = .ok received) :
    ∃ m' p look o r, m' = (setup.admission.identify m s.outside).1 ∧
      Admission.resolve s.registry m' true = .ok p ∧
      r = (Job.ofMessage m' p none : Job σ).handle.addressed
        (setup.engine.execute look (Context.start m' (some p))).result ∧
      ((¬ (Responder.multi extra r o).2.Crashed ∧ received = some r) ∨
        ((Responder.multi extra r o).2.Crashed ∧ received = none)) := by
  obtain ⟨haccepted, rfl⟩ := send_eq_ok hsend
  have hidentify : (setup.admission.identify m s.opened.outside).1 =
      (setup.admission.identify m s.outside).1 := by
    unfold Admission.identify
    split_ifs <;> rfl
  obtain ⟨p, hresolve, hsubmit, hboxes⟩ := receive_handsOver haccepted
  rw [hidentify] at hresolve hsubmit
  obtain ⟨q, earlier, hq, hworkers, hunits, hearlier⟩ := exists_pool hsize hpool hsubmit
  -- The jobs before it have left the slot as it was, and it is the last one that uses it.
  set taken := (s.opened.receive setup m (some (sender s.outside.boxes.length extra))).1
  have hspared := inTurn_spares setup hearlier q.canceled taken.outside
  rw [hboxes] at hspared
  have hempty : s.opened.outside.boxes[s.outside.boxes.length]? = some none := List.getElem?_concat_length
  rw [hempty] at hspared
  obtain ⟨look, o, r, ho, hr, hdone⟩ :=
    promptly_ofMessage setup (setup.admission.identify m s.outside).1 p
      (sender s.outside.boxes.length extra) q.canceled
      ((promptly setup).inTurn q.canceled earlier taken.outside)
  have hsettled := settle_boxes setup hq hworkers
  rw [hunits, Pool.Work.inTurn, List.foldl_append] at hsettled
  have hlast : (taken.settle setup fun _ => false).outside.boxes =
      (sender s.outside.boxes.length extra r o).1.boxes := hsettled.trans hdone
  rw [← ho] at hspared
  refine ⟨_, p, look, o, r, rfl, hresolve, hr, ?_⟩
  rw [hlast]
  rcases sender_boxes hextra r hspared with ⟨hcalm, hslot⟩ | ⟨hcrashed, hslot⟩
  · rw [hslot]
    exact .inl ⟨hcalm, rfl⟩
  · rw [hslot]
    exact .inr ⟨hcrashed, rfl⟩

/-- One result for many. A round calls those who are there in order, each at most once and with the same
result, and misses only those behind one that crashed; where nobody crashes it misses nobody. The sender
of a message is behind all others: it receives a result of the message if none of them crashed, and else it
receives nothing. -/
theorem fan_out {τ : Type} (rs : List (Option (Responder τ))) (handle : Once (τ × List Responder.Called))
    (hfresh : handle.completed = false)
    (hmulti : handle.responder = some (Responder.multi (Responder.allNoted rs 0))) (result : Result) (w : τ)
    (setup : Setup σ) {s : Service σ} (hsize : 0 < s.pool.size.workers)
    (hpool : ∀ p, s.pool.pool = some p →
      0 < p.size.workers ∧ ∀ t ∈ p.units, t.Spares s.outside.boxes.length)
    {extra : List (Option (Responder (Outside σ)))}
    (hextra : ∀ f, some f ∈ extra → f.Spares s.outside.boxes.length)
    {m : Message} {received : Option Result}
    (hsend : (s.send setup (fun _ => false) m extra).2 = .ok received) :
    (∃ calls,
      (handle.complete result (w, [])).state = ((Responder.multi rs (handle.addressed result) w).1, calls) ∧
      Responder.Round rs 0 (handle.addressed result) calls
        (Responder.multi rs (handle.addressed result) w).2 ∧
      ((∀ respond, some respond ∈ rs → ∀ r w, ¬ (respond r w).2.Crashed) →
        calls.map Responder.Called.place = Responder.present rs 0)) ∧
    ∃ m' p look o r, m' = (setup.admission.identify m s.outside).1 ∧
      Admission.resolve s.registry m' true = .ok p ∧
      r = (Job.ofMessage m' p none : Job σ).handle.addressed
        (setup.engine.execute look (Context.start m' (some p))).result ∧
      ((¬ (Responder.multi extra r o).2.Crashed ∧ received = some r) ∨
        ((Responder.multi extra r o).2.Crashed ∧ received = none)) := by
  refine ⟨?_, send_receives setup hsize hpool hextra hsend⟩
  obtain ⟨calls, heq, hround⟩ := Responder.callAll_noted rs 0 (handle.addressed result) [] w []
  refine ⟨calls, ?_, hround, hround.everyone⟩
  rw [Once.complete_state hfresh, hmulti]
  exact congrArg Prod.fst heq

/-- A responder that always fails, and one that always crashes. -/
def failing : Responder Nat := fun _ n => (n + 1, .failed ⟨"no", []⟩)

def crashing : Responder Nat := fun _ n => (n + 1, .panicked "stop")

/-- The handle of a message with all of these responders. -/
def handleOf (rs : List (Option (Responder Nat))) : Once (Nat × List Responder.Called) :=
  { messageId := "m", responder := some (Responder.multi (Responder.allNoted rs 0)) }

/-- A program, and a service that has it and a message for it whose sender waits. -/
def plainProgram : Program := (⟨"p", "", "", none, [.reply (.lit .null)]⟩ : Draft).program

def plain : Service Nat where
  registry := [("p", plainProgram)]
  pool := { size := ⟨1, 2⟩, spent := true, pool := some { size := ⟨1, 2⟩, queue :=
    [.ofMessage ⟨"first", "p", none, none⟩ plainProgram (some (Outside.boxResponder 0))] } }
  outside := { shared := 0, boxes := [none] }

def plainSetup : Setup Nat := { admission := ⟨fun n => ("m", n), none⟩ }

/-- One more message, sent with one more responder. -/
def sendPlain (other : Responder Nat) : Except Rejection (Option Result) :=
  (plain.send plainSetup (fun _ => false) ⟨"", "p", none, none⟩ [some (Outside.lift other)]).2

/-- Neither those that fail nor those that are not there are in the way of the others. -/
theorem fan_out_failing :
    (∃ calls, calls.map Responder.Called.place = [1, 3] ∧
      ((handleOf [none, some failing, none, some failing]).complete Result.blank (0, [])).state =
        (2, calls)) ∧
    ∃ r, r.messageId = "m" ∧ sendPlain failing = .ok (some r) := by
  obtain ⟨received, hsend⟩ : ∃ received, sendPlain failing = .ok received := ⟨_, rfl⟩
  have hspares : ∀ f, some f ∈ [some (Outside.lift failing)] → f.Spares plain.outside.boxes.length := by
    intro f hf
    cases List.mem_singleton.mp hf
    exact Responder.spares_lift failing
  have hwaiting : ∀ q, plain.pool.pool = some q →
      0 < q.size.workers ∧ ∀ t ∈ q.units, t.Spares plain.outside.boxes.length := by
    intro q hq
    cases hq
    refine ⟨by decide, ?_⟩
    intro t ht f hf
    cases List.mem_singleton.mp ht
    cases hf
    exact Responder.spares_boxResponder Nat.zero_ne_one
  obtain ⟨⟨calls, hstate, -, hall⟩, m', p, look, o, r, rfl, -, hr, hreceived⟩ :=
    fan_out [none, some failing, none, some failing] (handleOf _) rfl rfl Result.blank 0 plainSetup
      (by decide) hwaiting hspares hsend
  have hcalm : ∀ respond, some respond ∈ [none, some failing, none, some failing] →
      ∀ r w, ¬ (respond r w).2.Crashed := by
    intro respond hmem r w
    have hfailing : respond = failing := by simpa using hmem
    rw [hfailing]
    exact nofun
  refine ⟨⟨calls, hall hcalm, hstate⟩, r, ?_, ?_⟩
  · have hid := Engine.execute_messageId (e := plainSetup.engine) Visitor.standard_keeps look
      (Context.start (plainSetup.admission.identify ⟨"", "p", none, none⟩ plain.outside).1 (some p))
    rw [hr, Once.addressed_eq hid]
    exact hid
  · rcases hreceived with ⟨-, rfl⟩ | ⟨⟨t, hcrash⟩, -⟩
    · exact hsend
    · cases hcrash

/-- A crash in the middle: who is behind it is not called, and a sender waits for ever. -/
theorem fan_out_crashing :
    Responder.present [some failing, some crashing, some failing] 0 = [0, 1, 2] ∧
    (((handleOf [some failing, some crashing, some failing]).complete Result.blank (0, [])).state.2.map
      Responder.Called.place = [0, 1]) ∧
    sendPlain crashing = .ok none :=
  ⟨rfl, rfl, rfl⟩

end Service
end Courier
