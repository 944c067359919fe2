import Courier.Proofs.Http.Addressed
import Courier.Proofs.Http.Delivered
import Courier.Proofs.Store.Redis

/-! Answers that are results.
A result that a sender waited for, or that was fetched, is answered with status 200 before anyone knows
whether it has a document. Most have one, and it reads as a result with the id and the status of the run.
A result with a number that is not finite has none, and its answer has no body. -/
namespace Courier.Http

/-- An answer with a result of some id and status: a document that reads as such a result, or no body if
the result has no document. -/
structure Response.Reports (id : String) (status : Status) (r : Result) (a : Response) : Prop where
  found : a.status = 200
  read : (∃ t, r.encode = .ok t) →
    ∃ r', Result.decode? a.body = some r' ∧ r'.messageId = id ∧ r'.status = status
  blank : (¬ ∃ t, r.encode = .ok t) → a.body = "" ∧ Result.decode? a.body = none

theorem Response.Reports.congr {id : String} {status : Status} {r : Result} {a b : Response}
    (h : a.Reports id status r) (hstatus : b.status = a.status) (hbody : b.body = a.body) :
    b.Reports id status r :=
  ⟨hstatus.trans h.found, hbody ▸ h.read, hbody ▸ h.blank⟩

/-- Such an answer that has a body is a document. -/
theorem Response.Reports.of_body {id : String} {status : Status} {r : Result} {a : Response}
    (h : a.Reports id status r) (hbody : a.body ≠ "") :
    ∃ r', Result.decode? a.body = some r' ∧ r'.messageId = id ∧ r'.status = status := by
  by_contra hunread
  exact hbody (h.blank fun hencode => hunread (h.read hencode)).1

/-- An answer with what is shown for a result of a run of a message. The result has a document if all
literals of the program have one, and then so has what is shown. -/
def Response.Tells (e : Engine) (m : Message) (p : Program) (Shown : Result → Result → Prop) (a : Response) :
    Prop :=
  ∃ r r', e.Makes m p r ∧ Shown r r' ∧ a.Reports m.id r.status r' ∧
    ((∀ g, p.graph = some g → ∀ v, g.Gives v → v.HasDocument) → ∃ t, r.encode = .ok t) ∧
    ((∃ t, r.encode = .ok t) → ∃ t, r'.encode = .ok t)

theorem Response.Tells.congr {e : Engine} {m : Message} {p : Program} {Shown : Result → Result → Prop}
    {a b : Response} (h : a.Tells e m p Shown) (hstatus : b.status = a.status) (hbody : b.body = a.body) :
    b.Tells e m p Shown := by
  obtain ⟨r, r', hmakes, hshown, hreports, hdocuments⟩ := h
  exact ⟨r, r', hmakes, hshown, hreports.congr hstatus hbody, hdocuments⟩

theorem resultResponse_reports {r : Result} (hr : r.Valid) (s : Service Site) :
    (Server.resultResponse r s).2.Reports r.messageId (.ofText r.status.text) r := by
  unfold Server.resultResponse
  cases hencode : r.encode with
  | ok t =>
    refine ⟨rfl, fun _ => ⟨r.carried, ?_, rfl, rfl⟩, fun hnone => absurd ⟨t, hencode⟩ hnone⟩
    exact Result.decode?_encode_line hr hencode
  | error e =>
    refine ⟨rfl, ?_, fun _ => ⟨rfl, rfl⟩⟩
    rintro ⟨t, ht⟩
    cases hencode.symm.trans ht

/-- What goes on beside the messages of a server: results that are kept may be gone, and programs and
jobs; none is new. -/
structure Apart (Holds : MemoryStore → Depot → Prop) (s s' : Service Site) : Prop where
  programs : ∀ name p, s'.registry.program name = .ok p → s.registry.program name = .ok p
  jobs : ∀ t ∈ s'.pool.units, t ∈ s.pool.units
  boxes : s'.outside.boxes = s.outside.boxes
  depot : Loses Holds s.outside.shared.depot s'.outside.shared.depot

namespace Apart

variable {Holds : MemoryStore → Depot → Prop} {s s' s'' : Service Site}

theorem of_outside {o : Outside Site} (hboxes : o.boxes = s.outside.boxes)
    (hdepot : Loses Holds s.outside.shared.depot o.shared.depot) :
    Apart Holds s { s with outside := o } :=
  ⟨fun _ _ h => h, fun _ h => h, hboxes, hdepot⟩

theorem refl (s : Service Site) : Apart Holds s s := .of_outside rfl (.of_holds fun _ h => h)

theorem logged (es : List Log.Entry) (s : Service Site) : Apart Holds s (s.logged es) :=
  .of_outside rfl (.of_holds fun _ h => h)

theorem trans (h : Apart Holds s s') (h' : Apart Holds s' s'') : Apart Holds s s'' where
  programs name p hp := h.programs name p (h'.programs name p hp)
  jobs t ht := h.jobs t (h'.jobs t ht)
  boxes := h'.boxes.trans h.boxes
  depot m hm := by
    obtain ⟨m', hm', hsub⟩ := h.depot m hm
    obtain ⟨m'', hm'', hsub'⟩ := h'.depot m' hm'
    exact ⟨m'', hm'', fun id r hr => hsub id r (hsub' id r hr)⟩

end Apart

section Served

variable {srv : Server} {setup : Setup Site} {held : String → Bool} {base : Option (ResultStore Depot)}
  {Holds : MemoryStore → Depot → Prop} {Accepts : Result → Prop} {Shows : Result → Result → Prop}
  {Own : Nat → Message → Program → Prop} {m : Message} {p : Program}

/-- A server at work: its programs are as programs are registered, its jobs are those of messages that
came, and what was delivered is in order. -/
structure Server.Sound (srv : Server) (e : Engine) (Holds : MemoryStore → Depot → Prop)
    (Accepts : Result → Prop) (Own : Nat → Message → Program → Prop) (s : Service Site) : Prop where
  programs : ∀ name p, s.registry.program name = .ok p → p.Usable
  jobs : ∀ t ∈ s.pool.units, srv.Handed e Own t
  outside : Delivered e Holds Accepts Own s.outside

namespace Server.Sound

variable {s s' : Service Site}

theorem apart {e : Engine} (h : srv.Sound e Holds Accepts Own s) (hs : Apart Holds s s') :
    srv.Sound e Holds Accepts Own s' where
  programs name p hp := h.programs name p (hs.programs name p hp)
  jobs t ht := h.jobs t (hs.jobs t ht)
  outside := h.outside.of_boxes hs.boxes (h.outside.kept.loses hs.depot)

theorem register {e : Engine} (h : srv.Sound e Holds Accepts Own s) (hp : p.Usable)
    (hs : s.register (some p) = .ok s') : srv.Sound e Holds Accepts Own s' := by
  obtain ⟨registry, hregistry, rfl⟩ := map_eq_ok hs
  refine ⟨fun name q hq => ?_, h.jobs, h.outside.of_boxes rfl h.outside.kept⟩
  rcases Registry.program_register hregistry hq with rfl | hq
  · exact hp
  · exact h.programs name q hq

/-- One more slot is opened, for a message. -/
theorem opened {e : Engine} (h : srv.Sound e Holds Accepts Own s) (mine : Message → Program → Prop) :
    srv.Sound e Holds Accepts (fun i m p => Own i m p ∨ i = s.outside.boxes.length ∧ mine m p) s.opened := by
  refine ⟨h.programs, fun t ht => ?_, h.outside.opened mine⟩
  obtain ⟨m, p, box, hm, hawaits, hown⟩ := h.jobs t ht
  exact ⟨m, p, box, hm, hawaits, fun i hi => .inl (hown i hi)⟩

/-- What is taken out of a slot is a result of the message that the slot belongs to. -/
theorem looked (hsrv : srv.Serves setup held base Holds Accepts Shows)
    (h : srv.Sound setup.engine Holds Accepts Own s) (i : Nat) :
    srv.Sound setup.engine Holds Accepts Own (looked i s) ∧
    ∀ r s', (s.outside.takeBox i).2 = some r →
      ∃ m p, Own i m p ∧ (Server.resultResponse r s').2.Tells setup.engine m p Eq := by
  refine ⟨⟨h.programs, h.jobs, h.outside.taken i⟩, fun r s' hr => ?_⟩
  obtain ⟨m, p, hown, hm, hmakes⟩ := h.outside.boxes i r (Option.join_eq_some_iff.mp hr)
  have hreports := resultResponse_reports (hmakes.valid hsrv.visitor hm) s'
  rw [hmakes.messageId hsrv.visitor, hmakes.ofText_status] at hreports
  exact ⟨m, p, hown, r, r, hmakes, rfl, hreports, hmakes.encode hsrv.visitor hm, id⟩

theorem settle (hsrv : srv.Serves setup held base Holds Accepts Shows)
    (h : srv.Sound setup.engine Holds Accepts Own s) :
    srv.Sound setup.engine Holds Accepts Own (srv.host.settle s) := by
  obtain ⟨hjobs, houtside⟩ := Pool.Lazy.settle_keeps (work_keeps hsrv) h.jobs h.outside
  rw [hsrv.host]
  exact ⟨h.programs, hjobs, houtside.of_boxes rfl houtside.kept⟩

end Server.Sound

theorem resultResponse_apart (r : Result) (s : Service Site) :
    Apart Holds s (Server.resultResponse r s).1 := by
  unfold Server.resultResponse
  split
  · exact .of_outside rfl (.of_holds fun _ h => h)
  · exact .logged _ s

theorem uuidOf_ne_empty (n : Nat) : Depot.uuidOf n ≠ "" := by
  intro h
  have hlist := congrArg String.toList h
  simp [Depot.uuidOf] at hlist

theorem identify_apart (hsrv : srv.Serves setup held base Holds Accepts Shows) (id : String)
    (s : Service Site) :
    (Server.identify id s).1 ≠ "" ∧ Apart Holds s (Server.identify id s).2 := by
  unfold Server.identify
  split_ifs with hid
  · exact ⟨uuidOf_ne_empty _, .of_outside rfl (hsrv.drawn _)⟩
  · exact ⟨hid, .of_outside rfl (.of_holds fun _ h => h)⟩

/-- A message that is received hands nothing to the pool but its own job. -/
theorem Server.Sound.receive {s : Service Site} (hsrv : srv.Serves setup held base Holds Accepts Shows)
    (h : srv.Sound setup.engine Holds Accepts Own s) (hid : m.id ≠ "") (hm : (Value.record m.fields).Read)
    {box : Option Nat} (hown : ∀ i p, box = some i → s.registry.program m.program = .ok p → Own i m p) :
    srv.Sound setup.engine Holds Accepts Own (s.receive setup m (some (srv.responders box))).1 := by
  -- Drawing and claiming ids add nothing to what is kept.
  obtain ⟨hkept, hboxes, hjobs⟩ := Service.receive_keeps (some (srv.responders box))
    (I := fun t => Genuine setup.engine Holds Accepts t.depot) (fun t ht => ht.loses (hsrv.freshId t))
    (fun id t ht => ht.loses (hsrv.claim id t)) (fun id t ht => ht.loses (hsrv.release id t)) hid
    h.outside.kept
  refine ⟨h.programs, fun t ht => ?_, h.outside.of_boxes hboxes hkept⟩
  rcases hjobs t ht with hold | ⟨p, hp, rfl⟩
  · exact h.jobs t hold
  · exact ⟨m, p, box, ⟨h.programs _ p hp, hm⟩, .fresh, fun i hi => hown i p hi hp⟩

/-- A message that comes in a request leaves the server in order. If it is answered with a result, that is
one of a run of the message, by the program that has the name. -/
theorem Server.Sound.accept {s : Service Site} (hsrv : srv.Serves setup held base Holds Accepts Shows)
    (h : srv.Sound setup.engine Holds Accepts Own s) {b : Body} (hb : b.fields.Read) (program : String)
    (wait : Bool) :
    (∃ Own', srv.Sound setup.engine Holds Accepts Own' (srv.accept program b wait s).1) ∧
    ((srv.accept program b wait s).2.status = 200 →
      ∃ p, s.registry.program program = .ok p ∧ (srv.accept program b wait s).2.Tells setup.engine
        { b.message program with id := (Server.identify b.id s).1 } p Eq) := by
  obtain ⟨hid, hidentified⟩ := identify_apart hsrv b.id s
  cases hidentify : Server.identify b.id s with
  | mk id s₁ =>
  rw [hidentify] at hid hidentified
  have hsound := h.apart hidentified
  -- The slot that is new belongs to this message, whatever program it is that has the name.
  let m : Message := ⟨id, program, b.headers, b.payload⟩
  let k := s₁.outside.boxes.length
  let Mine : Nat → Message → Program → Prop := fun i m' p =>
    Own i m' p ∨ i = k ∧ m' = m ∧ s₁.registry.program program = .ok p
  have hopened : srv.Sound setup.engine Holds Accepts Mine s₁.opened := hsound.opened _
  have hmine (i : Nat) (p : Program) (hi : (if wait then some k else none) = some i)
      (hp : s₁.registry.program program = .ok p) : Mine i m p := by
    split_ifs at hi
    exact .inr ⟨(Option.some.inj hi).symm, rfl, hp⟩
  have hreceived := hopened.receive (m := m) hsrv hid hb hmine
  cases hreceive : s₁.opened.receive setup m (some (srv.responders (if wait then some k else none))) with
  | mk received rejection =>
  rw [hreceive] at hreceived
  have hanswers := accept_answers hsrv.host hidentify wait hreceive
  generalize srv.accept program b wait s = answered at hanswers ⊢
  obtain ⟨after, a⟩ := answered
  dsimp only at hreceived hanswers ⊢
  cases hanswers with
  | refused hstatus =>
    refine ⟨⟨Mine, hreceived.apart (.logged _ _)⟩, fun hfound => absurd ?_ hstatus⟩
    exact List.mem_cons.mpr (.inl hfound)
  | leaves _ hstatus =>
    exact ⟨⟨Mine, hreceived⟩, fun hfound => absurd (hstatus.symm.trans hfound) (by decide)⟩
  | early _ hstatus =>
    obtain ⟨hlooked, -⟩ := (hreceived.settle hsrv).looked hsrv k
    exact ⟨⟨Mine, hlooked.apart (.logged _ _)⟩, fun hfound => absurd (hstatus.symm.trans hfound) (by decide)⟩
  | found _ hresult =>
    obtain ⟨hlooked, hanswer⟩ := (hreceived.settle hsrv).looked hsrv k
    refine ⟨⟨Mine, hlooked.apart (resultResponse_apart _ _)⟩, fun _ => ?_⟩
    obtain ⟨m', p, hmine', htells⟩ := hanswer _ _ hresult
    -- No message from before has the slot, for there was none.
    obtain ⟨-, rfl, hp⟩ := hmine'.resolve_left fun hold => lt_irrefl k (hsound.outside.owned k m' p hold)
    exact ⟨p, hidentified.programs _ p hp, htells⟩

/-! Requests for what is kept. -/

theorem Server.Serves.loaded (hsrv : srv.Serves setup held base Holds Accepts Shows)
    {st : ResultStore Depot} (hbase : base = some st) (id : String) (d : Depot) :
    Loses Holds d (st.load id d).1 :=
  .of_holds fun _ hm => (hsrv.keeps st hbase).load hm id

/-- A call on what is shared leaves all else as it is. -/
theorem share_apart {f : Depot → Depot} (hf : ∀ d, Loses Holds d (f d)) (s : Service Site) :
    Apart Holds s { s with outside := { s.outside with
      shared := { s.outside.shared with depot := f s.outside.shared.depot } } } :=
  .of_outside rfl (hf _)

theorem loadResult_apart (hsrv : srv.Serves setup held base Holds Accepts Shows) (id : String)
    (s : Service Site) : Apart Holds s (srv.loadResult id s).1 := by
  unfold Server.loadResult
  rw [hsrv.store]
  cases hbase : base with
  | none => exact .refl s
  | some st =>
    dsimp only [Option.map_some, Service.share, Site.store, ResultStore.focus]
    have hloaded := share_apart (hsrv.loaded hbase id) s
    split
    · next r _ heq =>
      obtain ⟨-, rfl⟩ := Prod.mk.inj heq
      exact hloaded.trans (resultResponse_apart r _)
    · next heq =>
      obtain ⟨-, rfl⟩ := Prod.mk.inj heq
      split_ifs
      · exact hloaded
      · exact hloaded.trans (.logged _ _)

theorem deleteResult_apart (hsrv : srv.Serves setup held base Holds Accepts Shows) (id : String)
    (s : Service Site) : Apart Holds s (srv.deleteResult id s).1 := by
  unfold Server.deleteResult
  rw [hsrv.store]
  cases hbase : base with
  | none => exact .refl s
  | some st =>
    dsimp only [Option.map_some, Service.share, Site.store, ResultStore.focus]
    have hdeleted : Apart Holds s { s with outside := { s.outside with
        shared := { s.outside.shared with depot := (st.delete id s.outside.shared.depot).1 } } } := by
      refine .of_outside rfl fun kept hkept => ⟨_, ((hsrv.keeps st hbase).delete hkept id).2, ?_⟩
      intro other r hr
      by_cases hother : id = other
      · subst hother
        rw [Keyed.get?_erase_self] at hr
        cases hr
      · rwa [Keyed.get?_erase_of_ne _ hother] at hr
    split
    · next heq =>
      obtain ⟨-, rfl⟩ := Prod.mk.inj heq
      exact hdeleted
    · next heq =>
      obtain ⟨-, rfl⟩ := Prod.mk.inj heq
      exact hdeleted.trans (.logged _ _)

/-- A result that is fetched is shown for one that was made for the id. -/
theorem Server.Sound.fetched {s : Service Site} (hsrv : srv.Serves setup held base Holds Accepts Shows)
    (h : srv.Sound setup.engine Holds Accepts Own s) {id : String}
    (hfound : (srv.loadResult id s).2.status = 200) :
    ∃ m p, Comes m p ∧ m.id = id ∧
      (srv.loadResult id s).2.Tells setup.engine m p fun r r' => Accepts r ∧ Shows r r' := by
  cases hbase : base with
  | none =>
    unfold Server.loadResult at hfound
    rw [hsrv.store, hbase] at hfound
    cases hfound
  | some st =>
    have hkeeps := hsrv.keeps st hbase
    have hstore : srv.store = some (Site.store st) := by rw [hsrv.store, hbase, Option.map_some]
    obtain ⟨kept, hkept, hgenuine⟩ := h.outside.kept
    cases hr : Keyed.get? kept id with
    | none =>
      -- Then the answer is that nothing was found.
      have hmissing := (loadResult_missing hkeeps hstore ⟨kept, hkept, hr⟩).1
      rw [hfound] at hmissing
      cases hmissing
    | some r =>
      obtain ⟨⟨m, p, hm, rfl, hmakes⟩, haccepts⟩ := hgenuine id r hr
      obtain ⟨r', hload, hshows⟩ := hkeeps.found hkept hr
      have hresembles := hsrv.faithful r r' (hmakes.valid hsrv.visitor hm) hshows
      refine ⟨m, p, hm, rfl, r, r', hmakes, ⟨haccepts, hshows⟩, ?_, hmakes.encode hsrv.visitor hm,
        hresembles.encode⟩
      unfold Server.loadResult
      rw [hstore]
      dsimp only [Service.share, Site.store, ResultStore.focus]
      rw [hload]
      have hreports := resultResponse_reports hresembles.valid { s with outside := { s.outside with
        shared := { s.outside.shared with depot := (st.load m.id s.outside.shared.depot).1 } } }
      rw [hresembles.messageId, hmakes.messageId hsrv.visitor, hresembles.status, hmakes.ofText_status]
        at hreports
      exact hreports

/-! Clients that wait for events, and requests of all kinds. -/

theorem onStreams_apart {α : Type} (f : Streams → Streams × α) (s : Service Site) :
    Apart Holds s (Server.onStreams f s).1 :=
  .of_outside rfl (.of_holds fun _ h => h)

theorem disconnect_apart (c : Connection) (s : Service Site) : Apart Holds s (Server.disconnect c s).1 := by
  unfold Server.disconnect
  split
  · exact .refl s
  · next n _ => exact onStreams_apart (fun t => (t.cancel c.id n, ())) s

theorem keptText_apart (hsrv : srv.Serves setup held base Holds Accepts Shows) (id : String)
    (s : Service Site) : Apart Holds s (srv.keptText id s).1 := by
  unfold Server.keptText
  rw [hsrv.store]
  cases hbase : base with
  | none => exact .refl s
  | some st =>
    dsimp only [Option.map_some, Service.share, Site.store, ResultStore.focus]
    have hloaded := share_apart (hsrv.loaded hbase id) s
    split
    · next heq =>
      obtain ⟨-, rfl⟩ := Prod.mk.inj heq
      exact hloaded
    · next heq =>
      obtain ⟨-, rfl⟩ := Prod.mk.inj heq
      split_ifs
      · exact hloaded
      · exact hloaded.trans (.logged _ _)

theorem subscribe_apart (hsrv : srv.Serves setup held base Holds Accepts Shows) (id : String)
    (s : Service Site) : Apart Holds s (srv.subscribe id s).1 := by
  have hopened : Apart Holds s (Server.onStreams (Streams.subscribe id) s).1 := onStreams_apart _ s
  unfold Server.subscribe
  generalize Server.onStreams (Streams.subscribe id) s = streams at hopened ⊢
  have hlooked := hopened.trans (keptText_apart hsrv id streams.1)
  dsimp only
  generalize srv.keptText id streams.1 = looked at hlooked ⊢
  obtain ⟨s', _ | text⟩ := looked
  · exact hlooked
  · exact hlooked.trans (disconnect_apart _ s')

theorem goOn_apart (c : Connection) (s : Service Site) : Apart Holds s (Server.goOn c s).1 := by
  unfold Server.goOn
  split
  · exact .refl s
  · next n _ =>
    have hreceived : Apart Holds s (Server.onStreams (Streams.receive n) s).1 := onStreams_apart _ s
    split
    · next heq =>
      rw [heq] at hreceived
      exact hreceived.trans (disconnect_apart _ _)
    · next heq =>
      rw [heq] at hreceived
      exact hreceived
    · next heq =>
      rw [heq] at hreceived
      exact hreceived

theorem close_apart (s : Service Site) : Apart Holds s s.close := by
  refine ⟨fun _ _ h => h, fun t ht => ?_, rfl, .of_holds fun _ h => h⟩
  have hunits : s.close.pool.units = s.pool.units := Pool.Lazy.close_units s.pool
  rwa [hunits] at ht

theorem Server.Sound.sent {s : Service Site} (hsrv : srv.Serves setup held base Holds Accepts Shows)
    (h : srv.Sound setup.engine Holds Accepts Own s) (t : Target) (contentType text program : String) :
    (∃ Own', srv.Sound setup.engine Holds Accepts Own'
      (srv.serveRoute t contentType text s (.send program)).1) ∧
    ((srv.serveRoute t contentType text s (.send program)).2.status = 200 →
      ∃ b p, (Body.firstJson? text).bind Body.ofJson? = some b ∧ s.registry.program program = .ok p ∧
        (srv.serveRoute t contentType text s (.send program)).2.Tells setup.engine
          { b.message program with id := (Server.identify b.id s).1 } p Eq) := by
  unfold Server.serveRoute Server.send
  dsimp only
  split_ifs
  · exact ⟨⟨Own, h⟩, nofun⟩
  · cases hbody : (Body.firstJson? text).bind Body.ofJson? with
    | none => exact ⟨⟨Own, h.apart (.logged _ s)⟩, nofun⟩
    | some b =>
      dsimp only
      cases Server.waits? t with
      | none => exact ⟨⟨Own, h⟩, nofun⟩
      | some wait =>
        obtain ⟨j, -, hj⟩ := Option.bind_eq_some_iff.mp hbody
        obtain ⟨hafter, hanswer⟩ := h.accept hsrv (Body.read_of_ofJson? hj) program wait
        refine ⟨hafter, fun hfound => ?_⟩
        obtain ⟨p, hp, htells⟩ := hanswer hfound
        exact ⟨b, p, rfl, hp, htells⟩

theorem Server.Sound.served {s : Service Site} (hsrv : srv.Serves setup held base Holds Accepts Shows)
    (h : srv.Sound setup.engine Holds Accepts Own s) (method : String) (t : Target)
    (contentType text : String) :
    ∃ Own', srv.Sound setup.engine Holds Accepts Own' (srv.serve method t contentType text s).1 := by
  unfold Server.serve
  split_ifs
  · exact ⟨Own, h⟩
  · cases Route.find srv.metrics.isSome method t.routePath with
    | otherMethods allowed => exact ⟨Own, h⟩
    | nothing => exact ⟨Own, h⟩
    | route route =>
      cases route with
      | send program => exact (h.sent hsrv t contentType text program).1
      | result id => exact ⟨Own, h.apart (loadResult_apart hsrv id s)⟩
      | deleteResult id => exact ⟨Own, h.apart (deleteResult_apart hsrv id s)⟩
      | document | page | metrics | health | info | programs | program | graph | events => exact ⟨Own, h⟩

end Served

/-- A step of a server. -/
inductive Server.Step (srv : Server) (Holds : MemoryStore → Depot → Prop) : Service Site → Service Site → Prop
  | request {s : Service Site} (method : String) (t : Target) (contentType text : String) :
      Step srv Holds s (srv.serve method t contentType text s).1
  | work {s : Service Site} : Step srv Holds s (srv.host.settle s)
  | register {s s' : Service Site} {p : Program} (hp : p.Usable) (h : s.register (some p) = .ok s') :
      Step srv Holds s s'
  -- Clients wait for events, and go.
  | subscribe {s : Service Site} (id : String) : Step srv Holds s (srv.subscribe id s).1
  | goOn {s : Service Site} (c : Connection) : Step srv Holds s (Server.goOn c s).1
  | disconnect {s : Service Site} (c : Connection) : Step srv Holds s (Server.disconnect c s).1
  -- The pool takes no more messages.
  | close {s : Service Site} : Step srv Holds s s.close
  -- Time goes by, programs are removed, and others delete what is kept.
  | meanwhile {s s' : Service Site} (h : Apart Holds s s') : Step srv Holds s s'

/-- A server that has not served yet. What its store keeps is from messages that came before. -/
structure Server.Starts (e : Engine) (Holds : MemoryStore → Depot → Prop) (Accepts : Result → Prop)
    (s : Service Site) : Prop where
  programs : ∀ name p, s.registry.program name = .ok p → p.Usable
  jobs : s.pool.units = []
  boxes : s.outside.boxes = []
  kept : Genuine e Holds Accepts s.outside.shared.depot

section Runs

variable {srv : Server} {setup : Setup Site} {held : String → Bool} {base : Option (ResultStore Depot)}
  {Holds : MemoryStore → Depot → Prop} {Accepts : Result → Prop} {Shows : Result → Result → Prop}
  {Own : Nat → Message → Program → Prop} {s s' : Service Site}

theorem Server.Starts.sound (h : Server.Starts setup.engine Holds Accepts s) :
    srv.Sound setup.engine Holds Accepts (fun _ _ _ => False) s where
  programs := h.programs
  jobs := by
    rw [h.jobs]
    exact List.forall_mem_nil _
  outside := by
    refine ⟨nofun, fun i r hr => ?_, h.kept⟩
    rw [h.boxes] at hr
    cases hr

theorem Server.Sound.step (hsrv : srv.Serves setup held base Holds Accepts Shows)
    (h : srv.Sound setup.engine Holds Accepts Own s) (hstep : srv.Step Holds s s') :
    ∃ Own', srv.Sound setup.engine Holds Accepts Own' s' := by
  cases hstep with
  | request method t contentType text => exact h.served hsrv method t contentType text
  | work => exact ⟨Own, h.settle hsrv⟩
  | register hp hs => exact ⟨Own, h.register hp hs⟩
  | subscribe id => exact ⟨Own, h.apart (subscribe_apart hsrv id s)⟩
  | goOn c => exact ⟨Own, h.apart (goOn_apart c s)⟩
  | disconnect c => exact ⟨Own, h.apart (disconnect_apart c s)⟩
  | close => exact ⟨Own, h.apart (close_apart s)⟩
  | meanwhile hs => exact ⟨Own, h.apart hs⟩

theorem Server.Starts.sound_of_run (hsrv : srv.Serves setup held base Holds Accepts Shows)
    (h : Server.Starts setup.engine Holds Accepts s) (hrun : Relation.ReflTransGen (srv.Step Holds) s s') :
    ∃ Own, srv.Sound setup.engine Holds Accepts Own s' := by
  induction hrun with
  | refl => exact ⟨_, h.sound⟩
  | tail _ hstep ih =>
    obtain ⟨Own, hsound⟩ := ih
    exact hsound.step hsrv hstep

/-- An answer with status 200 to a message that was sent, or to the request for a result, is one with a
result of a run of the message. It reads as a result with the id of the message and the status of the run
if the result has a document, as it has when all literals of the program have one. If it has none, the
answer has no body. -/
theorem answered_with_result (hsrv : srv.Serves setup held base Holds Accepts Shows)
    (hstart : Server.Starts setup.engine Holds Accepts s)
    (hrun : Relation.ReflTransGen (srv.Step Holds) s s') (t : Target) (contentType text : String) :
    (∀ program, Route.find srv.metrics.isSome "POST" t.routePath = .route (.send program) →
      (srv.serve "POST" t contentType text s').2.status = 200 →
      ∃ b p, (Body.firstJson? text).bind Body.ofJson? = some b ∧ s'.registry.program program = .ok p ∧
        (srv.serve "POST" t contentType text s').2.Tells setup.engine
          { b.message program with id := (Server.identify b.id s').1 } p Eq) ∧
    (∀ id, Route.find srv.metrics.isSome "GET" t.routePath = .route (.result id) →
      (srv.serve "GET" t contentType text s').2.status = 200 →
      ∃ m p, Comes m p ∧ m.id = id ∧ (srv.serve "GET" t contentType text s').2.Tells setup.engine m p
        fun r r' => Accepts r ∧ Shows r r') := by
  obtain ⟨Own, hsound⟩ := hstart.sound_of_run hsrv hrun
  refine ⟨fun program hroute hfound => ?_, fun id hroute hfound => ?_⟩
  · obtain ⟨-, hstatus, hbody⟩ := serve_of_find (by decide) hroute contentType text s'
    rw [hstatus] at hfound
    obtain ⟨b, p, hb, hp, htells⟩ := (hsound.sent hsrv t contentType text program).2 hfound
    exact ⟨b, p, hb, hp, htells.congr hstatus hbody⟩
  · obtain ⟨-, hstatus, hbody⟩ := serve_of_find (by decide) hroute contentType text s'
    rw [hstatus] at hfound
    obtain ⟨m, p, hm, hid, htells⟩ := hsound.fetched hsrv hfound
    exact ⟨m, p, hm, hid, htells.congr hstatus hbody⟩

/-- A store that accepts only what has a document is not affected: what is fetched from it is one. -/
theorem fetched_of_accepts (hsrv : srv.Serves setup held base Holds Accepts Shows)
    (haccepts : ∀ r, Accepts r → ∃ t, r.encode = .ok t)
    (hstart : Server.Starts setup.engine Holds Accepts s)
    (hrun : Relation.ReflTransGen (srv.Step Holds) s s') {t : Target} {contentType text id : String}
    (hroute : Route.find srv.metrics.isSome "GET" t.routePath = .route (.result id))
    (hfound : (srv.serve "GET" t contentType text s').2.status = 200) :
    ∃ r, Result.decode? (srv.serve "GET" t contentType text s').2.body = some r ∧ r.messageId = id := by
  obtain ⟨Own, hsound⟩ := hstart.sound_of_run hsrv hrun
  obtain ⟨-, hstatus, hbody⟩ := serve_of_find (by decide) hroute contentType text s'
  rw [hstatus] at hfound
  obtain ⟨m, p, -, rfl, r, r', -, ⟨hr, -⟩, hreports, -, hdocument⟩ := hsound.fetched hsrv hfound
  obtain ⟨r'', hread, hid, -⟩ := hreports.read (hdocument (haccepts r hr))
  rw [hbody]
  exact ⟨r'', hread, hid⟩

/-- A server without claims that keeps results in Redis is one with such a store. -/
theorem serves_redis {c : RedisStore} (hc : c.ttl = 0) {srv : Server} {setup : Setup Site}
    {held : String → Bool} (hhost : srv.host = .ofSetup setup held)
    (hvisitor : setup.engine.visitor = Visitor.standard) (hadmission : setup.admission = ⟨Site.freshId, none⟩)
    (hstore : srv.store = some (Site.store (Depot.redisStore c))) :
    srv.Serves setup held (some (Depot.redisStore c)) (fun m d => c.Holds m d.redis) Result.Storable
      Result.ComesBackAs where
  host := hhost
  visitor := hvisitor
  store := hstore
  keeps := by
    rintro st ⟨⟩
    exact (RedisStore.keeps hc).focus fun _ _ => rfl
  faithful := fun r r' hr hback => hback.resembles hr
  drawn := fun _ => .of_holds fun _ h => h
  freshId := by
    rw [hadmission]
    exact fun _ => .of_holds fun _ h => h
  claim := by
    rw [hadmission]
    exact fun _ _ => .of_holds fun _ h => h
  release := by
    rw [hadmission]
    exact fun _ _ => .of_holds fun _ h => h

end Runs

section Small

/-- The target of requests that wait for the result. -/
def waitingTarget : Target := ⟨"/v1/programs/p/messages", none, "wait=true".toList⟩

theorem small_serves : small.Serves { admission := ⟨Site.freshId, none⟩ } (fun _ => false)
    (some Depot.memoryStore) (fun m d => m = d.memory) (fun _ => True) Eq where
  host := rfl
  visitor := rfl
  store := rfl
  keeps := by
    rintro st ⟨⟩
    exact MemoryStore.keeps.focus fun _ _ => rfl
  faithful := by
    rintro r _ hr rfl
    exact hr.resembles
  drawn := fun _ => .of_holds fun _ h => h
  freshId := fun _ => .of_holds fun _ h => h
  claim := fun _ _ => .of_holds fun _ h => h
  release := fun _ _ => .of_holds fun _ h => h

/-- The same service with a program that replies with a value. -/
def replying (v : Value) : Service Site :=
  { smallService with registry := [("p", (⟨"p", "", "", none, [.reply (.lit v)]⟩ : Draft).program)] }

theorem replying_starts {v : Value} (hv : v.Valid) :
    Server.Starts {} (fun m d => m = d.memory) (fun _ => True) (replying v) where
  programs := by
    intro name p hp
    rw [Registry.program_eq_ok_iff] at hp
    obtain ⟨-, rfl⟩ := Prod.mk.inj (List.mem_singleton.mp (Keyed.mem_of_get? hp))
    refine ⟨rfl, fun g hg => ?_, fun g hg w hw => ?_⟩
    · obtain rfl := Option.some.inj hg
      change 1 < 2 ^ 63
      decide
    · obtain rfl := Option.some.inj hg
      obtain ⟨s, hs, hw⟩ := hw
      obtain rfl := List.mem_singleton.mp hs
      cases hw
      exact hv
  jobs := rfl
  boxes := rfl
  kept := by
    refine ⟨[], rfl, fun id r hr => ?_⟩
    cases hr

/-- A message is sent, its sender waits for the result, and someone fetches it later. -/
theorem answered_with_result_null :
    let sent := small.serve "POST" waitingTarget "application/json" (smallText "m") (replying .null)
    let fetched := small.serve "GET" ⟨"/v1/results/m", none, []⟩ "" "" sent.1
    (sent.2.status = 200 ∧ ∃ r, Result.decode? sent.2.body = some r ∧ r.messageId = "m") ∧
    fetched.2.status = 200 ∧ ∃ r, Result.decode? fetched.2.body = some r ∧ r.messageId = "m" := by
  dsimp only
  constructor
  · have hsent : (small.serve "POST" waitingTarget "application/json" (smallText "m")
        (replying .null)).2.status = 200 := by decide +kernel
    obtain ⟨hsend, -⟩ := answered_with_result small_serves (replying_starts .null) .refl waitingTarget
      "application/json" (smallText "m")
    obtain ⟨b, p, hb, -, r, r', -, -, hreports, -⟩ := hsend "p" (by decide +kernel) hsent
    have hread : ((Body.firstJson? (smallText "m")).bind Body.ofJson?).map Body.id = some "m" := by
      decide +kernel
    rw [hb] at hread
    have hid : (Server.identify b.id (replying .null)).1 = "m" := by
      rw [Option.some.inj hread, Server.identify, if_neg (by decide)]
    obtain ⟨r'', hdecode, hmessage, -⟩ := hreports.of_body (by decide +kernel)
    exact ⟨hsent, r'', hdecode, hmessage.trans hid⟩
  · have hstep : small.Step (fun m d => m = d.memory) (replying .null) (small.serve "POST" waitingTarget
        "application/json" (smallText "m") (replying .null)).1 := .request _ _ _ _
    obtain ⟨-, hfetch⟩ := answered_with_result small_serves (replying_starts .null) (.single hstep)
      ⟨"/v1/results/m", none, []⟩ "" ""
    have hfetched : (small.serve "GET" ⟨"/v1/results/m", none, []⟩ "" "" (small.serve "POST" waitingTarget
        "application/json" (smallText "m") (replying .null)).1).2.status = 200 := by decide +kernel
    obtain ⟨m, p, -, hid, r, r', -, -, hreports, -⟩ := hfetch "m" (by decide +kernel) hfetched
    obtain ⟨r'', hdecode, hmessage, -⟩ := hreports.of_body (by decide +kernel)
    exact ⟨hfetched, r'', hdecode, hmessage.trans hid⟩

/-- A result with a number that is not finite has no document, and is answered with nothing. -/
theorem not_answered_with_result :
    let sent := small.serve "POST" waitingTarget "application/json" (smallText "m") (replying (.float .nan))
    let fetched := small.serve "GET" ⟨"/v1/results/m", none, []⟩ "" "" sent.1
    (sent.2.status = 200 ∧ sent.2.body = "" ∧ (Result.decode? sent.2.body).isNone) ∧
    fetched.2.status = 200 ∧ fetched.2.body = "" ∧ (Result.decode? fetched.2.body).isNone := by
  decide +kernel

end Small

end Courier.Http
