import Courier.Proofs.Completion
import Courier.Proofs.Http.Segment
import Courier.Proofs.Http.Waiting
import Courier.Proofs.Run.Request
import Courier.Proofs.Service.Sent
import Courier.Proofs.Service.Taken

/-! Results under the ids that clients chose.
The result of a message is kept under the id that came with the message. A request for it names an id in
its path, and works on what is kept under the id that is read there. -/
namespace Courier

namespace Http

/-- A result is kept under an id. -/
def Kept (Holds : MemoryStore → Depot → Prop) (id : String) (r : Result) (d : Depot) : Prop :=
  ∃ m, Holds m d ∧ Keyed.get? m id = some r

/-- Nothing is kept under an id. -/
def Free (Holds : MemoryStore → Depot → Prop) (id : String) (d : Depot) : Prop :=
  ∃ m, Holds m d ∧ Keyed.get? m id = none

section Delivered

variable {srv : Server} {base : ResultStore Depot} {Holds : MemoryStore → Depot → Prop}
  {Accepts : Result → Prop} {Shows : Result → Result → Prop} {o : Outside Site} {m : MemoryStore}
  {r : Result}

/-- The store is the first of those to whom a result is delivered, and the others leave it alone. -/
theorem responders_holds (hbase : base.Keeps Holds Accepts Shows)
    (hstore : srv.store = some (Site.store base)) (box : Option Nat) (hm : Holds m o.shared.depot)
    (hvalid : r.Valid) (hsaved : (base.save r o.shared.depot).2 = none) :
    Holds (Keyed.insert r.messageId r m) (srv.responders box r o).1.shared.depot := by
  -- A store that refuses a result says so.
  have haccepts : Accepts r := by
    by_contra hrefuse
    obtain ⟨f, hf⟩ := (hbase.refuse hm hrefuse).1
    rw [hsaved] at hf
    cases hf
  let saved : Outside Site :=
    { o with shared := { o.shared with depot := (base.save r o.shared.depot).1 } }
  have hlift : Outside.lift (Site.store base).responder r o = (saved, .done) := by
    have hsave : (Site.store base).save r o.shared =
        ({ o.shared with depot := (base.save r o.shared.depot).1 }, none) := by
      rw [← hsaved]
      rfl
    simp only [Outside.lift, ResultStore.responder, hsave, saved]
  have hkept : Holds (Keyed.insert r.messageId r m) saved.shared.depot := (hbase.save hm hvalid haccepts).2
  have hfirst : srv.responders box r o =
      Responder.callAll [some Server.publish, box.map Outside.boxResponder] r [] saved := by
    rw [Server.responders, hstore, Responder.multi, Option.map_some, Responder.callAll, hlift]
  -- Those who are called next write to subscriptions and to a slot.
  rw [hfirst]
  refine Responder.callAll_keeps (P := fun o : Outside Site => Holds _ o.shared.depot) ?_ [] hkept
  intro respond hmem o ho
  rcases List.mem_cons.mp hmem with hpublish | hmem
  · cases hpublish
    unfold Server.publish
    split
    · exact ho
    · exact ho
  · rw [List.mem_singleton, eq_comm, Option.map_eq_some_iff] at hmem
    obtain ⟨i, -, rfl⟩ := hmem
    exact ho

/-- A worker that gets to the job of a message runs it, unless that is done. -/
theorem work_cases {setup : Setup Site} (hvisitor : setup.engine.visitor.Keeps)
    (hbase : base.Keeps Holds Accepts Shows) (hstore : srv.store = some (Site.store base))
    {msg : Message} {p : Program} {box : Option Nat} {t : Job Site}
    (ht : t.Awaits setup.engine msg p (srv.responders box)) {held : String → Bool} {stop : Bool}
    {o o' : Outside Site} {made : Pool.Progress (Job Site)}
    (hwork : Service.work setup held stop t o = (o', made)) :
    -- Its result is held back, and nobody is told.
    (∃ t', made = .waits t' ∧ t'.Awaits setup.engine msg p (srv.responders box) ∧ o'.shared = o.shared) ∨
    -- Its result is delivered, and from then on kept under the id of the message.
    (made = .ended false ∧ ∃ look r, r = (setup.engine.execute look (Context.start msg (some p))).result ∧
      r.messageId = msg.id ∧
      ∀ m, Holds m o.shared.depot → r.Valid → (base.save r o.shared.depot).2 = none →
        Kept Holds msg.id r o'.shared.depot) := by
  have hjob := ht.execute setup.observed (fun _ => if stop then some .canceled else none) o
  unfold Service.work at hwork
  rcases hexecute : t.execute setup.engine setup.observed
    (fun _ => if stop then some .canceled else none) o with ⟨x, ran⟩
  rw [hexecute] at hjob hwork
  obtain ⟨hhandle, hawaits, ⟨look, hrun⟩, hshared⟩ := hjob
  dsimp only at hawaits hrun hshared hwork
  split_ifs at hwork
  · cases hwork
    exact .inl ⟨_, rfl, hawaits, hshared⟩
  · cases hwork
    have hid : x.result.messageId = msg.id := by
      rw [hrun]
      exact Engine.execute_messageId hvisitor look _
    -- A result that carries an id is handed on as it is.
    have hdelivered : (t.deliver x ran).shared = (srv.responders box x.result ran).1.shared := by
      have hcomplete : (t.handle.complete x.result ran).state = (srv.responders box x.result ran).1 := by
        rw [hhandle, Once.complete_state rfl]
        dsimp only
        rw [Once.addressed_eq hid]
      rw [← hcomplete]
      rfl
    refine .inr ⟨rfl, look, x.result, by rw [hrun], hid, fun m hm hvalid hsaved => ?_⟩
    rw [hdelivered, ← hid]
    rw [← hshared] at hm hsaved
    exact ⟨_, responders_holds hbase hstore box hm hvalid hsaved, Keyed.get?_insert_self m _ _⟩

end Delivered

/-- A request that has a route is answered by it. -/
theorem serve_of_find {srv : Server} {method : String} {t : Target} {route : Route}
    (hmethod : method ≠ "OPTIONS")
    (h : Route.find srv.metrics.isSome method t.routePath = .route route) (contentType text : String)
    (s : Service Site) :
    (srv.serve method t contentType text s).1 = (srv.serveRoute t contentType text s route).1 ∧
    (srv.serve method t contentType text s).2.status =
      (srv.serveRoute t contentType text s route).2.status ∧
    (srv.serve method t contentType text s).2.body =
      (srv.serveRoute t contentType text s route).2.body := by
  rw [Server.serve, if_neg hmethod, h]
  dsimp only
  rw [Sharing.serve, if_neg hmethod]
  exact ⟨rfl, rfl, rfl⟩

section Sent

variable {srv : Server} {setup : Setup Site} {held : String → Bool} {program : String} {b : Body}
  {s : Service Site}

/-- A message as it came in a request. -/
def Body.message (b : Body) (program : String) : Message := ⟨b.id, program, b.headers, b.payload⟩

/-- A request was taken as a message: its job was handed to the pool, which works on if the sender
waits. -/
def Server.Takes (srv : Server) (s : Service Site) (m : Message) (p : Program) (box : Option Nat)
    (after : Service Site) : Prop :=
  s.registry.program m.program = .ok p ∧
    ∃ served : Service Site,
      s.pool.submit (some (.ofMessage m p (some (srv.responders box)))) = (served.pool, none) ∧
      (after = served ∨ after.pool = (srv.host.settle served).pool)

/-- The status of a refusal is not one of an acceptance. -/
theorem statusOf_not_accepted (reason : Option Reason) : Server.statusOf reason ∉ [200, 202] := by
  rcases reason with _ | reason
  · decide
  · cases reason <;> decide

/-- A service after a slot was looked at, in which there is nothing any more. -/
def looked (box : Nat) (s : Service Site) : Service Site := { s with outside := (s.outside.takeBox box).1 }

/-- What comes of a message that was handed to the service. It is refused, or it is taken; then its sender
is answered at once, or the pool works and there is a result in the slot of the sender, or none. -/
inductive Server.Answers (srv : Server) (box : Nat) (wait : Bool) (received : Service Site) :
    Option Rejection → Service Site → Response → Prop
  | refused {j es a} (hstatus : a.status ∉ [200, 202]) :
      Answers srv box wait received (some j) (received.logged es) a
  | leaves {a} (hwait : wait = false) (hstatus : a.status = 202) :
      Answers srv box wait received none received a
  | early {es a} (hwait : wait = true) (hstatus : a.status = 202) :
      Answers srv box wait received none ((looked box (srv.host.settle received)).logged es) a
  | found {r} (hwait : wait = true)
      (hresult : ((srv.host.settle received).outside.takeBox box).2 = some r) :
      Answers srv box wait received none
        (Server.resultResponse r (looked box (srv.host.settle received))).1
        (Server.resultResponse r (looked box (srv.host.settle received))).2

theorem accept_answers (hhost : srv.host = .ofSetup setup held) {id : String} {s₁ : Service Site}
    (hidentify : Server.identify b.id s = (id, s₁)) (wait : Bool) {received : Service Site}
    {rejection : Option Rejection}
    (hreceived : s₁.opened.receive setup ⟨id, program, b.headers, b.payload⟩
      (some (srv.responders (if wait then some s₁.outside.boxes.length else none))) = (received, rejection)) :
    srv.Answers s₁.outside.boxes.length wait received rejection (srv.accept program b wait s).1
      (srv.accept program b wait s).2 := by
  have hreceive : srv.host.receive ⟨id, program, b.headers, b.payload⟩
      (some (srv.responders (if wait then some s₁.outside.boxes.length else none))) s₁.opened =
      (received, rejection.map fun j => ⟨some j.reason, j.fault⟩) := by
    rw [hhost]
    dsimp only [Host.ofSetup]
    rw [hreceived]
  unfold Service.opened at hreceive
  unfold Server.accept
  rw [hidentify]
  dsimp only [Outside.openBox] at hreceive ⊢
  rw [hreceive]
  cases rejection with
  | some j =>
    -- The one header that a refusal may come with leaves its status.
    refine .refused ?_
    dsimp only [Option.map_some]
    split_ifs <;> exact statusOf_not_accepted _
  | none =>
    dsimp only [Option.map_none]
    cases wait with
    | false => exact .leaves rfl rfl
    | true =>
      rw [if_neg (by decide)]
      cases hresult : ((srv.host.settle received).outside.takeBox s₁.outside.boxes.length).2 with
      | none => exact .early rfl rfl
      | some r => exact .found rfl hresult

theorem accept_takes (hhost : srv.host = .ofSetup setup held) (hid : b.id ≠ "") {wait : Bool}
    (haccepted : (srv.accept program b wait s).2.status ∈ [200, 202]) :
    ∃ p box, srv.Takes s (b.message program) p box (srv.accept program b wait s).1 := by
  let box := if wait then some s.outside.boxes.length else none
  cases hreceived : s.opened.receive setup (b.message program) (some (srv.responders box)) with
  | mk received rejection =>
  have hanswers := accept_answers hhost (if_neg hid) wait hreceived
  generalize srv.accept program b wait s = answered at haccepted hanswers ⊢
  obtain ⟨after, a⟩ := answered
  dsimp only at haccepted hanswers ⊢
  cases rejection with
  | some j =>
    cases hanswers with
    | refused hstatus => exact absurd haccepted hstatus
  | none =>
    obtain ⟨p, hprogram, hsubmit⟩ := Service.receive_taken hid (congrArg Prod.snd hreceived)
    rw [hreceived] at hsubmit
    refine ⟨p, box, hprogram, received, hsubmit, ?_⟩
    cases hanswers with
    | leaves => exact .inl rfl
    | early => exact .inr rfl
    | found =>
      refine .inr ?_
      unfold Server.resultResponse
      split <;> rfl

theorem serve_takes (hhost : srv.host = .ofSetup setup held) {t : Target} {contentType text : String}
    (hroute : Route.find srv.metrics.isSome "POST" t.routePath = .route (.send program))
    (hbody : (Body.firstJson? text).bind Body.ofJson? = some b) (hid : b.id ≠ "")
    (haccepted : (srv.serve "POST" t contentType text s).2.status ∈ [200, 202]) :
    ∃ p box, srv.Takes s (b.message program) p box (srv.serve "POST" t contentType text s).1 := by
  obtain ⟨hservice, hstatus, -⟩ := serve_of_find (by decide) hroute contentType text s
  rw [hstatus] at haccepted
  rw [hservice]
  -- every answer before the message is taken has another status
  have hinvalid (word : String) : (Server.invalid word).status ∉ [200, 202] := by
    change 400 ∉ [200, 202]
    decide
  unfold Server.serveRoute Server.send at haccepted ⊢
  dsimp only at haccepted ⊢
  split_ifs at haccepted ⊢
  · exact absurd haccepted (hinvalid _)
  rw [hbody] at haccepted ⊢
  dsimp only at haccepted ⊢
  cases hwaits : Server.waits? t with
  | none =>
    rw [hwaits] at haccepted
    exact absurd haccepted (hinvalid _)
  | some wait =>
    rw [hwaits] at haccepted
    exact accept_takes hhost hid haccepted

end Sent

/-- An answer that is a result. -/
structure Response.Carries (r : Result) (a : Response) : Prop where
  status : a.status = 200
  body : ∀ text, r.encode = .ok text → a.body = text ++ "\n"

/-- Requests with a target work on what is kept under an id. -/
structure Server.Addresses (srv : Server) (Holds : MemoryStore → Depot → Prop)
    (Shows : Result → Result → Prop) (t : Target) (id : String) : Prop where
  found : ∀ contentType text s r, Kept Holds id r s.outside.shared.depot →
    let (after, answer) := srv.serve "GET" t contentType text s
    (∃ r', Shows r r' ∧ answer.Carries r') ∧ Kept Holds id r after.outside.shared.depot
  missing : ∀ contentType text s, Free Holds id s.outside.shared.depot →
    let (after, answer) := srv.serve "GET" t contentType text s
    answer.status = 404 ∧ Free Holds id after.outside.shared.depot
  deleted : ∀ contentType text s m, Holds m s.outside.shared.depot →
    let (after, answer) := srv.serve "DELETE" t contentType text s
    answer.status = 204 ∧ Free Holds id after.outside.shared.depot ∧
      ∀ other r, other ≠ id → Keyed.get? m other = some r → Kept Holds other r after.outside.shared.depot

section Requests

variable {srv : Server} {base : ResultStore Depot} {Holds : MemoryStore → Depot → Prop}
  {Accepts : Result → Prop} {Shows : Result → Result → Prop} {s : Service Site} {id : String}

theorem resultResponse_carries (r : Result) (s : Service Site) :
    (Server.resultResponse r s).2.Carries r ∧
      (Server.resultResponse r s).1.outside.shared = s.outside.shared := by
  unfold Server.resultResponse
  cases hr : r.encode with
  | ok text =>
    refine ⟨⟨rfl, ?_⟩, rfl⟩
    rintro text' htext
    cases hr.symm.trans htext
    rfl
  | error e =>
    refine ⟨⟨rfl, ?_⟩, rfl⟩
    rintro text' htext
    cases hr.symm.trans htext

theorem loadResult_found (hbase : base.Keeps Holds Accepts Shows)
    (hstore : srv.store = some (Site.store base)) {r : Result}
    (hkept : Kept Holds id r s.outside.shared.depot) :
    (∃ r', Shows r r' ∧ (srv.loadResult id s).2.Carries r') ∧
      Kept Holds id r (srv.loadResult id s).1.outside.shared.depot := by
  obtain ⟨m, hm, hr⟩ := hkept
  obtain ⟨r', hload, hshows⟩ := hbase.found hm hr
  have hholds := hbase.load hm id
  unfold Server.loadResult
  rw [hstore]
  dsimp only [Service.share, Site.store, ResultStore.focus]
  rw [hload]
  dsimp only
  obtain ⟨hcarries, hshared⟩ := resultResponse_carries r' _
  refine ⟨⟨r', hshows, hcarries⟩, m, ?_, hr⟩
  rw [hshared]
  exact hholds

theorem loadResult_missing (hbase : base.Keeps Holds Accepts Shows)
    (hstore : srv.store = some (Site.store base)) (hfree : Free Holds id s.outside.shared.depot) :
    (srv.loadResult id s).2.status = 404 ∧
      Free Holds id (srv.loadResult id s).1.outside.shared.depot := by
  obtain ⟨m, hm, hid⟩ := hfree
  have hload := hbase.missing hm hid
  have hholds := hbase.load hm id
  unfold Server.loadResult
  rw [hstore]
  dsimp only [Service.share, Site.store, ResultStore.focus]
  rw [hload]
  exact ⟨rfl, m, hholds, hid⟩

theorem deleteResult_deleted (id : String) (hbase : base.Keeps Holds Accepts Shows)
    (hstore : srv.store = some (Site.store base)) {m : MemoryStore} (hm : Holds m s.outside.shared.depot) :
    (srv.deleteResult id s).2.status = 204 ∧
      Holds (Keyed.erase id m) (srv.deleteResult id s).1.outside.shared.depot := by
  obtain ⟨hfault, hholds⟩ := hbase.delete hm id
  unfold Server.deleteResult
  rw [hstore]
  dsimp only [Service.share, Site.store, ResultStore.focus]
  rw [hfault]
  exact ⟨rfl, hholds⟩

/-- The path that a client writes for an id works on what is kept under the id that the path names. -/
theorem addresses_target (hbase : base.Keeps Holds Accepts Shows)
    (hstore : srv.store = some (Site.store base)) (e : Escaping) (hid : id ≠ "") :
    srv.Addresses Holds Shows (e.target id) (e.named id) := by
  have hfind := Route.find_result srv.metrics.isSome (e.named_ne_empty id hid) (e.not_mem_named id)
  rw [← e.routePath_target id] at hfind
  obtain ⟨hget, hdelete⟩ := hfind
  constructor
  · intro contentType text s r hkept
    obtain ⟨hservice, hstatus, hbody⟩ := serve_of_find (by decide) hget contentType text s
    obtain ⟨⟨r', hshows, hcarries⟩, hafter⟩ := loadResult_found hbase hstore hkept
    have hanswer : (srv.serve "GET" (e.target id) contentType text s).2.Carries r' :=
      ⟨hstatus.trans hcarries.status, fun text h => hbody.trans (hcarries.body text h)⟩
    exact ⟨⟨r', hshows, hanswer⟩, hservice ▸ hafter⟩
  · intro contentType text s hfree
    obtain ⟨hservice, hstatus, -⟩ := serve_of_find (by decide) hget contentType text s
    obtain ⟨hanswer, hafter⟩ := loadResult_missing hbase hstore hfree
    exact ⟨hstatus.trans hanswer, hservice ▸ hafter⟩
  · intro contentType text s m hm
    obtain ⟨hservice, hstatus, -⟩ := serve_of_find (by decide) hdelete contentType text s
    obtain ⟨hanswer, hholds⟩ := deleteResult_deleted (e.named id) hbase hstore hm
    have hafter : Holds (Keyed.erase (e.named id) m)
        (srv.serve "DELETE" (e.target id) contentType text s).1.outside.shared.depot := hservice ▸ hholds
    exact ⟨hstatus.trans hanswer, ⟨_, hafter, Keyed.get?_erase_self m _⟩,
      fun other r hne hr => ⟨_, hafter, (Keyed.get?_erase_of_ne m hne.symm).trans hr⟩⟩

end Requests

/-- A message with an id of its own that is taken is run and its result is kept under that id, if the store
takes it. The path that a client writes for the id works on what is kept under the id that is read there.
It is the same id if the client escapes as it is usual, or nothing at all. There is such a client for
every id without a slash, and for no other. -/
theorem addressed_by_own_id {srv : Server} {setup : Setup Site} {held : String → Bool}
    (hhost : srv.host = .ofSetup setup held) (hvisitor : setup.engine.visitor.Keeps)
    {base : ResultStore Depot} (hstore : srv.store = some (Site.store base))
    {Holds : MemoryStore → Depot → Prop} {Accepts : Result → Prop} {Shows : Result → Result → Prop}
    (hbase : base.Keeps Holds Accepts Shows) {t : Target} {contentType text program : String} {b : Body}
    {s : Service Site} (hroute : Route.find srv.metrics.isSome "POST" t.routePath = .route (.send program))
    (hbody : (Body.firstJson? text).bind Body.ofJson? = some b) (hid : b.id ≠ "")
    (haccepted : (srv.serve "POST" t contentType text s).2.status ∈ [200, 202]) :
    (∃ p box, srv.Takes s (b.message program) p box (srv.serve "POST" t contentType text s).1 ∧
      ∀ {u : Job Site}, u.Awaits setup.engine (b.message program) p (srv.responders box) →
      ∀ {held stop o o' crashed}, Service.work setup held stop u o = (o', .ended crashed) →
      ∃ look r, r = (setup.engine.execute look (Context.start (b.message program) (some p))).result ∧
        r.messageId = b.id ∧
        ∀ m, Holds m o.shared.depot → r.Valid → (base.save r o.shared.depot).2 = none →
          Kept Holds b.id r o'.shared.depot) ∧
    (∀ e : Escaping, Target.ofText? (e.path b.id) = some (e.target b.id) ∧
      srv.Addresses Holds Shows (e.target b.id) (e.named b.id) ∧
      (e.named b.id = b.id ↔ e.Usual b.id ∨ ∀ x ∈ Text.utf8Bytes b.id, e.plain x = true)) ∧
    ((∃ e : Escaping, e.named b.id = b.id) ↔ '/' ∉ b.id.toList) := by
  obtain ⟨p, box, htakes⟩ := serve_takes hhost hroute hbody hid haccepted
  refine ⟨⟨p, box, htakes, ?_⟩, fun e => ⟨?_, ?_, ?_⟩, ?_⟩
  · intro u hu held stop o o' crashed hwork
    obtain ⟨u', hwaits, -⟩ | ⟨-, hkept⟩ := work_cases hvisitor hbase hstore hu hwork
    · cases hwaits
    · exact hkept
  · exact e.ofText?_path b.id
  · exact addresses_target hbase hstore e hid
  · exact e.named_eq_iff b.id
  · constructor
    · rintro ⟨e, he⟩ hslash
      exact e.named_ne_of_slash b.id hslash he
    · intro hslash
      exact ⟨.usual, Escaping.usual_named b.id hslash⟩

section Small

/-- A server with one program, which keeps results in memory. -/
def small : Server where
  host := .ofSetup { admission := ⟨Site.freshId, none⟩ } fun _ => false
  store := some (Site.store Depot.memoryStore)

def smallService : Service Site where
  registry := [("p", (⟨"p", "", "", none, [.reply (.lit .null)]⟩ : Draft).program)]
  pool := { size := ⟨1, 1⟩ }
  outside := { shared := {} }

/-- The target of requests that send it a message. -/
def smallTarget : Target := ⟨"/v1/programs/p/messages", none, []⟩

/-- The body of such a request. -/
def smallText (id : String) : String := "\x7b\"id\": \"" ++ id ++ "\", \"payload\": \x7b\x7d\x7d"

/-- A blank is escaped, and so is not in the way. -/
theorem addressed_by_own_id_blank :
    (small.serve "POST" smallTarget "application/json" (smallText "a b") smallService).2.status ∈
      [200, 202] ∧
    (∃ m p box, m.id = "a b" ∧ small.Takes smallService m p box
      (small.serve "POST" smallTarget "application/json" (smallText "a b") smallService).1) ∧
    Target.ofText? "/v1/results/a%20b" = some (Escaping.usual.target "a b") ∧
    small.Addresses (fun m d => m = d.memory) Eq (Escaping.usual.target "a b") "a b" := by
  have haccepted : (small.serve "POST" smallTarget "application/json" (smallText "a b")
      smallService).2.status ∈ [200, 202] := by
    decide +kernel
  have hid : ((Body.firstJson? (smallText "a b")).bind Body.ofJson?).map Body.id = some "a b" := by
    decide +kernel
  obtain ⟨b, hbody, hb⟩ := Option.map_eq_some_iff.mp hid
  have hpath : Escaping.usual.path "a b" = "/v1/results/a%20b" := by decide +kernel
  have hroute : Route.find small.metrics.isSome "POST" smallTarget.routePath = .route (.send "p") := by
    decide +kernel
  obtain ⟨⟨p, box, htakes, -⟩, hclients, -⟩ := addressed_by_own_id rfl Visitor.standard_keeps rfl
    (MemoryStore.keeps.focus fun _ _ => rfl) hroute hbody (by rw [hb]; decide) haccepted
  obtain ⟨htarget, haddresses, hnamed⟩ := hclients .usual
  rw [hb] at htarget haddresses hnamed
  rw [hpath] at htarget
  rw [hnamed.mpr (.inl (by decide +kernel))] at haddresses
  exact ⟨haccepted, ⟨b.message "p", p, box, hb, htakes⟩, htarget, haddresses⟩

/-- A result under an id with a slash is kept, but no client finds it. -/
theorem not_addressed_slash :
    let sent := small.serve "POST" smallTarget "application/json" (smallText "a/b") smallService
    let completed := small.host.settle sent.1
    sent.2.status = 202 ∧ Keyed.keys completed.outside.shared.depot.memory = ["a/b"] ∧
    ∀ e : Escaping, Target.ofText? (e.path "a/b") = some (e.target "a/b") ∧
      (small.serve "GET" (e.target "a/b") "" "" completed).2.status = 404 := by
  intro sent completed
  have hstatus : sent.2.status = 202 := by decide +kernel
  have hkeys : Keyed.keys completed.outside.shared.depot.memory = ["a/b"] := by decide +kernel
  refine ⟨hstatus, hkeys, fun e => ⟨e.ofText?_path _, ?_⟩⟩
  have haddresses : small.Addresses (fun m d => m = d.memory) Eq (e.target "a/b") (e.named "a/b") :=
    addresses_target (MemoryStore.keeps.focus fun _ _ => rfl) rfl e (by decide)
  -- The one id that there is has a slash, and no path names it.
  have hfree : Keyed.get? completed.outside.shared.depot.memory (e.named "a/b") = none := by
    rw [Option.eq_none_iff_forall_ne_some]
    intro r hr
    have hmem := Keyed.mem_keys_iff.mpr ⟨r, hr⟩
    rw [hkeys, List.mem_singleton] at hmem
    exact e.named_ne_of_slash "a/b" (by decide) hmem
  exact (haddresses.missing "" "" _ ⟨_, rfl, hfree⟩).1

end Small

end Http
end Courier
