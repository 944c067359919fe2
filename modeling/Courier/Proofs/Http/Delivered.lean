import Courier.Proofs.Http.Handlers
import Courier.Proofs.Run.Values
import Courier.Proofs.Service.Sent

/-! What a server delivers.
The result of a run goes to the store and to the slot of a sender who waits, so that whatever is found there
was made by a run of a message that came, and is as results are made. -/
namespace Courier

/-- A message as requests bring it, to a program as programs are registered. -/
structure Comes (m : Message) (p : Program) : Prop where
  usable : p.Usable
  payload : (Value.record m.fields).Read

/-- A result of a run of a message. -/
def Engine.Makes (e : Engine) (m : Message) (p : Program) (r : Result) : Prop :=
  ∃ look, r = (e.execute look (.start m (some p))).result

namespace Engine.Makes

variable {e : Engine} {m : Message} {p : Program} {r : Result}

theorem messageId (h : e.Makes m p r) (hv : e.visitor = Visitor.standard) : r.messageId = m.id := by
  obtain ⟨look, rfl⟩ := h
  exact Engine.execute_messageId (hv ▸ Visitor.standard_keeps) look _

theorem valid (h : e.Makes m p r) (hv : e.visitor = Visitor.standard) (hm : Comes m p) : r.Valid := by
  obtain ⟨look, rfl⟩ := h
  exact Engine.execute_valid hv hm.usable hm.payload.valid look

/-- A run ends with one of the two statuses that are read as they are written. -/
theorem ofText_status (h : e.Makes m p r) : Status.ofText r.status.text = r.status := by
  obtain ⟨look, rfl⟩ := h
  rw [(Execution.wellFormed e look _).status]
  split <;> rfl

/-- A result has a document if all that its program gives has one. -/
theorem encode (h : e.Makes m p r) (hv : e.visitor = Visitor.standard) (hm : Comes m p)
    (hlit : ∀ g, p.graph = some g → ∀ v, g.Gives v → v.HasDocument) : ∃ t, r.encode = .ok t := by
  obtain ⟨look, rfl⟩ := h
  obtain ⟨-, g, hg, -⟩ := (Program.check_eq_ok_iff p).mp hm.usable.check
  exact Engine.execute_encode (Engine.execute_consists look hv Value.inherited_hasDocument hg (hlit g hg)
    hm.payload.hasDocument)

end Engine.Makes

/-- A result under an id that was made for it. -/
def Engine.MadeFor (e : Engine) (id : String) (r : Result) : Prop :=
  ∃ m p, Comes m p ∧ m.id = id ∧ e.Makes m p r

namespace Http

/-! What requests bring. -/

namespace Body

/-- The payload read so far. -/
def fields (b : Body) : Value := .record (b.payload.getD [])

theorem readMember_read {b b' : Body} {m : String × Json} (hb : b.fields.Read)
    (h : readMember b m = some b') : b'.fields.Read := by
  unfold readMember at h
  split at h
  · obtain ⟨s, -, rfl⟩ := Option.map_eq_some_iff.mp h
    exact hb
  · obtain ⟨hs, -, rfl⟩ := Option.map_eq_some_iff.mp h
    exact hb
  · obtain ⟨payload, hpayload, rfl⟩ := Option.map_eq_some_iff.mp h
    unfold Result.readBindings at hpayload
    split at hpayload
    · cases hpayload
      exact Value.read_record List.Pairwise.nil (List.forall_mem_nil _)
    · obtain ⟨vs, hvs, rfl⟩ := Option.map_eq_some_iff.mp hpayload
      have hsorted : Keyed.Sorted (b.payload.getD []) := by
        cases hb.valid with
        | record hs hfields => exact hs
      refine Value.read_record (hsorted.overlay vs) fun f hf => ?_
      rcases Keyed.mem_overlay hf with hold | hnew
      · exact ⟨Value.inherited_valid.field hb.valid f hold,
          Value.inherited_hasDocument.field hb.hasDocument f hold⟩
      · exact Value.read_ofMembers? _ hvs f hnew
    · cases hpayload
  · cases h
    exact hb

theorem foldlM_readMember_read {ms : List (String × Json)} {b b' : Body} (hb : b.fields.Read)
    (h : ms.foldlM readMember b = some b') : b'.fields.Read := by
  induction ms generalizing b with
  | nil =>
    cases h
    exact hb
  | cons m ms ih =>
    obtain ⟨next, hnext, hrest⟩ := Option.bind_eq_some_iff.mp h
    exact ih (readMember_read hb hnext) hrest

/-- The payload of a message that was read can be written. -/
theorem read_of_ofJson? {j : Json} {b : Body} (h : ofJson? j = some b) : b.fields.Read := by
  have hempty : ({} : Body).fields.Read := Value.read_record List.Pairwise.nil (List.forall_mem_nil _)
  unfold ofJson? at h
  split at h
  · cases h
    exact hempty
  · exact foldlM_readMember_read hempty h
  · cases h

end Body

/-- What is kept afterwards was kept before. -/
def Loses (Holds : MemoryStore → Depot → Prop) (d d' : Depot) : Prop :=
  ∀ m, Holds m d → ∃ m', Holds m' d' ∧ ∀ id r, Keyed.get? m' id = some r → Keyed.get? m id = some r

theorem Loses.of_holds {Holds : MemoryStore → Depot → Prop} {d d' : Depot}
    (h : ∀ m, Holds m d → Holds m d') : Loses Holds d d' :=
  fun m hm => ⟨m, h m hm, fun _ _ hr => hr⟩

/-! Jobs that deliver what their runs make. -/

/-- A server for a service, with the store that it keeps results in if it has one. What draws ids and
claims them adds nothing to what is kept, and the store shows results under their ids. -/
structure Server.Serves (srv : Server) (setup : Setup Site) (held : String → Bool)
    (base : Option (ResultStore Depot)) (Holds : MemoryStore → Depot → Prop) (Accepts : Result → Prop)
    (Shows : Result → Result → Prop) : Prop where
  host : srv.host = .ofSetup setup held
  visitor : setup.engine.visitor = Visitor.standard
  store : srv.store = base.map Site.store
  keeps : ∀ st, base = some st → st.Keeps Holds Accepts Shows
  faithful : ∀ r r', r.Valid → Shows r r' → r.Resembles r'
  drawn : ∀ d : Depot, Loses Holds d d.uuid.2
  freshId : ∀ t, Loses Holds t.depot (setup.admission.freshId t).2.depot
  claim : ∀ id t, Loses Holds t.depot (setup.admission.claim id t).1.depot
  release : ∀ id t, Loses Holds t.depot (setup.admission.release id t).1.depot

/-- What is kept in a depot was made for the ids that it is kept under. -/
def Genuine (e : Engine) (Holds : MemoryStore → Depot → Prop) (Accepts : Result → Prop) (d : Depot) : Prop :=
  ∃ m, Holds m d ∧ ∀ id r, Keyed.get? m id = some r → e.MadeFor id r ∧ Accepts r

/-- What has been delivered so far: results that are kept, and results in slots. A slot belongs to a
message. -/
structure Delivered (e : Engine) (Holds : MemoryStore → Depot → Prop) (Accepts : Result → Prop)
    (Own : Nat → Message → Program → Prop) (o : Outside Site) : Prop where
  owned : ∀ i m p, Own i m p → i < o.boxes.length
  boxes : ∀ i r, o.boxes[i]? = some (some r) → ∃ m p, Own i m p ∧ Comes m p ∧ e.Makes m p r
  kept : Genuine e Holds Accepts o.shared.depot

/-- A job of a message that came, whose result goes to no slot but that of the message. -/
def Server.Handed (srv : Server) (e : Engine) (Own : Nat → Message → Program → Prop) (t : Job Site) : Prop :=
  ∃ m p box, Comes m p ∧ t.Awaits e m p (srv.responders box) ∧ ∀ i, box = some i → Own i m p

section Deliveries

variable {srv : Server} {setup : Setup Site} {held : String → Bool} {base : Option (ResultStore Depot)}
  {Holds : MemoryStore → Depot → Prop} {Accepts : Result → Prop} {Shows : Result → Result → Prop}
  {Own : Nat → Message → Program → Prop} {m : Message} {p : Program} {r : Result} {o : Outside Site}

theorem Genuine.loses {e : Engine} {d d' : Depot} (h : Genuine e Holds Accepts d) (hd : Loses Holds d d') :
    Genuine e Holds Accepts d' := by
  obtain ⟨m, hm, hgenuine⟩ := h
  obtain ⟨m', hm', hsub⟩ := hd m hm
  exact ⟨m', hm', fun id r hr => hgenuine id r (hsub id r hr)⟩

theorem Delivered.of_boxes {e : Engine} {o' : Outside Site} (h : Delivered e Holds Accepts Own o)
    (hboxes : o'.boxes = o.boxes) (hkept : Genuine e Holds Accepts o'.shared.depot) :
    Delivered e Holds Accepts Own o' :=
  ⟨hboxes ▸ h.owned, hboxes ▸ h.boxes, hkept⟩

/-- A store keeps a result that it accepts, and is left as it was by one that it refuses. -/
theorem Genuine.save {e : Engine} {st : ResultStore Depot} (hst : st.Keeps Holds Accepts Shows) {d : Depot}
    (hd : Genuine e Holds Accepts d) (hmade : e.MadeFor r.messageId r) (hvalid : r.Valid) :
    Genuine e Holds Accepts (st.save r d).1 := by
  obtain ⟨kept, hkept, hgenuine⟩ := hd
  by_cases haccepts : Accepts r
  · refine ⟨_, (hst.save hkept hvalid haccepts).2, fun id r' hr' => ?_⟩
    by_cases hid : r.messageId = id
    · subst hid
      rw [Keyed.get?_insert_self] at hr'
      cases hr'
      exact ⟨hmade, haccepts⟩
    · rw [Keyed.get?_insert_of_ne _ hid] at hr'
      exact hgenuine id r' hr'
  · exact ⟨kept, (hst.refuse hkept haccepts).2, hgenuine⟩

/-- A slot of the message takes the result, or keeps the one that it has. -/
theorem Delivered.box {e : Engine} (h : Delivered e Holds Accepts Own o) (hm : Comes m p)
    (hmakes : e.Makes m p r) {i : Nat} (hown : Own i m p) :
    Delivered e Holds Accepts Own (Outside.boxResponder i r o).1 := by
  refine ⟨fun j m' p' hj => ?_, fun j r' hr' => ?_, h.kept⟩
  · rw [Outside.boxResponder, List.length_set]
    exact h.owned j m' p' hj
  · rw [Outside.boxResponder, List.getElem?_set] at hr'
    split_ifs at hr' with hj
    · subst hj
      rw [Option.some.injEq] at hr'
      cases hold : (o.boxes[i]?).join with
      | none =>
        rw [hold, Mailbox.respond] at hr'
        cases hr'
        exact ⟨m, p, hown, hm, hmakes⟩
      | some old =>
        rw [hold, Mailbox.respond] at hr'
        cases hr'
        exact h.boxes i r' (Option.join_eq_some_iff.mp hold)
    · exact h.boxes j r' hr'

/-- One more slot is opened, for a message. -/
theorem Delivered.opened {e : Engine} (h : Delivered e Holds Accepts Own o)
    (mine : Message → Program → Prop) :
    Delivered e Holds Accepts (fun i m p => Own i m p ∨ i = o.boxes.length ∧ mine m p) o.openBox.2 := by
  refine ⟨fun i m p hi => ?_, fun i r hr => ?_, h.kept⟩
  · rw [Outside.openBox, List.length_append, List.length_singleton, Nat.lt_succ_iff]
    rcases hi with hi | ⟨rfl, -⟩
    · exact (h.owned i m p hi).le
    · exact le_rfl
  · rw [Outside.openBox, List.getElem?_append] at hr
    split_ifs at hr
    · obtain ⟨m, p, hown, hmade⟩ := h.boxes i r hr
      exact ⟨m, p, .inl hown, hmade⟩
    · -- there is nothing yet in the slot that is new
      obtain ⟨_, hnew⟩ := List.getElem?_eq_some_iff.mp hr
      rw [List.getElem_singleton] at hnew
      cases hnew

/-- A slot from which the result is taken is empty. -/
theorem Delivered.taken {e : Engine} (h : Delivered e Holds Accepts Own o) (i : Nat) :
    Delivered e Holds Accepts Own (o.takeBox i).1 := by
  refine ⟨fun j m p hj => ?_, fun j r hr => ?_, h.kept⟩
  · rw [Outside.takeBox, List.length_set]
    exact h.owned j m p hj
  · rw [Outside.takeBox, List.getElem?_set] at hr
    split_ifs at hr
    · cases hr
    · exact h.boxes j r hr

/-- All who are told of a result leave what has been delivered in order. -/
theorem Delivered.responders (hsrv : srv.Serves setup held base Holds Accepts Shows)
    (h : Delivered setup.engine Holds Accepts Own o) (hm : Comes m p) (hmakes : setup.engine.Makes m p r)
    {box : Option Nat} (hown : ∀ i, box = some i → Own i m p) :
    Delivered setup.engine Holds Accepts Own (srv.responders box r o).1 := by
  refine Responder.callAll_keeps (P := Delivered setup.engine Holds Accepts Own) ?_ [] h
  intro respond hmem o ho
  simp only [List.mem_cons, List.not_mem_nil, or_false] at hmem
  rcases hmem with hstore | hpublish | hbox
  · rw [hsrv.store, Option.map_map, eq_comm, Option.map_eq_some_iff] at hstore
    obtain ⟨st, hst, rfl⟩ := hstore
    have hid : r.messageId = m.id := hmakes.messageId hsrv.visitor
    -- Whether the store keeps the result or fails, nobody but the store changes what is kept.
    have hsaved : (Outside.lift (Site.store st).responder r o).1.shared.depot =
        (st.save r o.shared.depot).1 := by
      rcases hsave : st.save r o.shared.depot with ⟨d, _ | f⟩
      all_goals simp only [Outside.lift, ResultStore.responder, Site.store, ResultStore.focus, hsave]
    refine ho.of_boxes rfl ?_
    change Genuine setup.engine Holds Accepts (Outside.lift (Site.store st).responder r o).1.shared.depot
    rw [hsaved]
    exact ho.kept.save (hsrv.keeps st hst) ⟨m, p, hm, hid.symm, hmakes⟩ (hmakes.valid hsrv.visitor hm)
  · cases hpublish
    unfold Server.publish
    split
    · exact ho
    · exact ho.of_boxes rfl ho.kept
  · rw [eq_comm, Option.map_eq_some_iff] at hbox
    obtain ⟨i, hi, rfl⟩ := hbox
    exact ho.box hm hmakes (hown i hi)

/-- A worker that gets to a job holds its result back, or delivers it. -/
theorem work_keeps (hsrv : srv.Serves setup held base Holds Accepts Shows) :
    (Service.work setup held).Keeps (srv.Handed setup.engine Own)
      (Delivered setup.engine Holds Accepts Own) := by
  rintro stop t o ⟨m, p, box, hm, hawaits, hown⟩ ho
  have hjob := hawaits.execute setup.observed (fun _ => if stop then some .canceled else none) o
  have hboxes := t.execute_boxes setup.engine setup.observed
    (fun _ => if stop then some .canceled else none) o
  unfold Service.work
  rcases hexecute : t.execute setup.engine setup.observed
    (fun _ => if stop then some .canceled else none) o with ⟨x, ran⟩
  rw [hexecute] at hjob hboxes
  obtain ⟨hhandle, hwaits, ⟨look, hrun⟩, hshared⟩ := hjob
  dsimp only at hwaits hrun hshared hboxes ⊢
  -- The run itself changes neither slots nor what is kept.
  have hran : Delivered setup.engine Holds Accepts Own ran := ho.of_boxes hboxes (hshared ▸ ho.kept)
  split_ifs
  · refine ⟨hran, fun v hv => ?_⟩
    cases hv
    exact ⟨m, p, box, hm, hwaits, hown⟩
  · have hmakes : setup.engine.Makes m p x.result := ⟨look, by rw [hrun]⟩
    have hcomplete : (t.handle.complete x.result ran).state = (srv.responders box x.result ran).1 := by
      rw [hhandle, Once.complete_state rfl]
      dsimp only
      -- The result has the id of its message already, so that it is told as it was made.
      rw [Once.addressed_eq (hmakes.messageId hsrv.visitor)]
    have htold := hran.responders hsrv hm hmakes hown
    rw [← hcomplete] at htold
    refine ⟨htold.of_boxes rfl htold.kept, fun v hv => ?_⟩
    cases hv

end Deliveries
end Http
end Courier
