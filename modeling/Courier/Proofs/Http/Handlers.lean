import Courier.Http.Server
import Courier.Proofs.Store.Keeping
import Mathlib.Logic.Relation

/-! Clients that wait for the result of a message while it is delivered, as the steps of all who take
part in any order. A handler subscribes, looks into the store, and waits for its channel if there is
nothing; the delivery saves the result and then sends it to one channel after the other. -/
namespace Courier.Http.Waiting

/-- How far the handler of a client has come: subscribed, without a result in the store and waiting for
one, done with its result, or gone with its subscription ended. -/
inductive Stage
  | subscribed
  | waiting
  | answered
  | gone
  deriving DecidableEq

structure Handler where
  connection : Connection
  stage : Stage

/-- The handler once its client was sent one more event. -/
def Handler.told (h : Handler) (event : String) (stage : Stage) : Handler :=
  ⟨{ h.connection with body := h.connection.body ++ event }, stage⟩

/-- How far the delivery of the result has come. While it is sent, nobody can subscribe or leave; the
channels that it was not sent to yet are left. -/
inductive Delivery
  | due
  | saved
  | sending (left : List Nat)
  | done

def Delivery.isSending : Delivery → Bool
  | .sending _ => true
  | _ => false

structure State where
  service : Service Site
  delivery : Delivery := .due
  handlers : List Handler := []

namespace State

def site (s : State) : Site := s.service.outside.shared

def streams (s : State) : Streams := s.site.streams

/-- The state in which one handler has come further. -/
def move (s : State) (service : Service Site) (i : Nat) (h : Handler) : State :=
  { s with service, handlers := s.handlers.set i h }

end State

/-- What others do to the site meanwhile: neither the subscriptions to the message nor the result that
is kept for it are touched. -/
structure Elsewhere (Holds : MemoryStore → Depot → Prop) (id : String) (t t' : Site) : Prop where
  subscriptions : t'.streams.subscriptions id = t.streams.subscriptions id
  channels : ∀ n ∈ t.streams.subscriptions id, t'.streams.channels[n]? = t.streams.channels[n]?
  length : t.streams.channels.length ≤ t'.streams.channels.length
  kept : ∀ m, Holds m t.depot → ∃ m', Holds m' t'.depot ∧ Keyed.get? m' id = Keyed.get? m id

/-- One step of someone who takes part in the delivery of the result `r`. -/
inductive Step (srv : Server) (Holds : MemoryStore → Depot → Prop) (r : Result) : State → State → Prop
  -- A handler opens a subscription and looks into the store.
  | subscribe {s : State} {service : Service Site} {n : Nat} (hfree : s.delivery.isSending = false)
      (h : Server.onStreams (Streams.subscribe r.messageId) s.service = (service, n)) :
      Step srv Holds r s { s with
        service, handlers := s.handlers ++ [⟨⟨r.messageId, some n, ""⟩, .subscribed⟩] }
  | find {s : State} {service : Service Site} {i : Nat} {h : Handler} {text : String}
      (hi : s.handlers[i]? = some h) (hstage : h.stage = .subscribed)
      (hkept : srv.keptText h.connection.id s.service = (service, some text)) :
      Step srv Holds r s (s.move service i (h.told (Server.event "result" text) .answered))
  | miss {s : State} {service : Service Site} {i : Nat} {h : Handler}
      (hi : s.handlers[i]? = some h) (hstage : h.stage = .subscribed)
      (hkept : srv.keptText h.connection.id s.service = (service, none)) :
      Step srv Holds r s (s.move service i (h.told (Server.event "ping" "connected") .waiting))
  -- A handler that waits takes the text out of its channel. If the channel were closed, it would go
  -- without one.
  | receive {s : State} {service : Service Site} {i n : Nat} {h : Handler} {text : String}
      (hi : s.handlers[i]? = some h) (hstage : h.stage = .waiting)
      (hn : h.connection.channel = some n)
      (hreceive : Server.onStreams (Streams.receive n) s.service = (service, .text text)) :
      Step srv Holds r s (s.move service i (h.told (Server.event "result" text) .answered))
  | closed {s : State} {service : Service Site} {i n : Nat} {h : Handler}
      (hi : s.handlers[i]? = some h) (hstage : h.stage = .waiting)
      (hn : h.connection.channel = some n)
      (hreceive : Server.onStreams (Streams.receive n) s.service = (service, .closed)) :
      Step srv Holds r s (s.move service i ⟨{ h.connection with channel := none }, .gone⟩)
  | leave {s : State} {service : Service Site} {i : Nat} {h : Handler} {c : Connection}
      (hi : s.handlers[i]? = some h) (hstage : h.stage = .answered)
      (hfree : s.delivery.isSending = false)
      (hleave : Server.disconnect h.connection s.service = (service, c)) :
      Step srv Holds r s (s.move service i ⟨c, .gone⟩)
  -- The result is saved, then sent to those who are subscribed at that time, in any order.
  | save {s : State} {st : ResultStore Site} {o : Outside Site} (hdue : s.delivery = .due)
      (hst : srv.store = some st)
      (hsave : Outside.lift st.responder r s.service.outside = (o, .done)) :
      Step srv Holds r s { s with service := { s.service with outside := o }, delivery := .saved }
  | announce {s : State} {left : List Nat} (hsaved : s.delivery = .saved)
      (hleft : left.Perm (s.streams.subscriptions r.messageId)) :
      Step srv Holds r s { s with delivery := .sending left }
  | send {s : State} {service : Service Site} {n : Nat} {left : List Nat} {text : String}
      (hsending : s.delivery = .sending (n :: left)) (htext : r.encode = .ok text)
      (hoffer : Server.onStreams (fun t => (t.offer text n, ())) s.service = (service, ())) :
      Step srv Holds r s { s with service, delivery := .sending left }
  | finish {s : State} (hsent : s.delivery = .sending []) :
      Step srv Holds r s { s with delivery := .done }
  -- Other messages are served, results are kept for them, and time goes by.
  | meanwhile {s : State} {service : Service Site}
      (h : Elsewhere Holds r.messageId s.site service.outside.shared) :
      Step srv Holds r s { s with service }

/-- A state that some order of steps leads to from one in which nobody has come yet. What the store
keeps there for the message is `earlier`, a result of an earlier delivery if there is any. -/
def Reachable (srv : Server) (Holds : MemoryStore → Depot → Prop) (r : Result) (earlier : Option Result)
    (s : State) : Prop :=
  ∃ service m, Holds m service.outside.shared.depot ∧ Keyed.get? m r.messageId = earlier ∧
    Relation.ReflTransGen (Step srv Holds r) ⟨service, .due, []⟩ s

theorem Reachable.start {srv : Server} {Holds : MemoryStore → Depot → Prop} {r : Result}
    {earlier : Option Result} {service : Service Site} {m : MemoryStore}
    (hm : Holds m service.outside.shared.depot) (hearlier : Keyed.get? m r.messageId = earlier) :
    Reachable srv Holds r earlier ⟨service, .due, []⟩ :=
  ⟨service, m, hm, hearlier, .refl⟩

theorem Reachable.step {srv : Server} {Holds : MemoryStore → Depot → Prop} {r : Result}
    {earlier : Option Result} {s s' : State} (h : Reachable srv Holds r earlier s)
    (hstep : Step srv Holds r s s') : Reachable srv Holds r earlier s' := by
  obtain ⟨service, m, hm, hearlier, hrun⟩ := h
  exact ⟨service, m, hm, hearlier, hrun.tail hstep⟩

/-! The operations of the server at one go are runs of these steps in which nobody comes in between. -/

section AtOneGo

open Relation

variable {srv : Server} {Holds : MemoryStore → Depot → Prop} {r : Result} {s : State}

/-- The state in which one more handler has come. -/
def State.join (s : State) (service : Service Site) (h : Handler) : State :=
  { s with service, handlers := s.handlers ++ [h] }

theorem State.join_getElem? (s : State) (service : Service Site) (h : Handler) :
    (s.join service h).handlers[s.handlers.length]? = some h := by
  simp [join]

theorem State.join_move (s : State) (service service' : Service Site) (h h' : Handler) :
    (s.join service h).move service' s.handlers.length h' = s.join service' h' := by
  simp [join, move]

/-- Subscribing is coming, looking into the store, and leaving again if the result is there. -/
theorem subscribe_steps (srv : Server) (Holds : MemoryStore → Depot → Prop) (r : Result)
    (hfree : s.delivery.isSending = false) : ∃ stage, ReflTransGen (Step srv Holds r) s
      (s.join (srv.subscribe r.messageId s.service).1 ⟨(srv.subscribe r.messageId s.service).2, stage⟩) := by
  cases hsubscribe : Server.onStreams (Streams.subscribe r.messageId) s.service with
  | mk service n =>
  let c : Connection := ⟨r.messageId, some n, ""⟩
  have hcome : Step srv Holds r s (s.join service ⟨c, .subscribed⟩) := .subscribe hfree hsubscribe
  have hhere := s.join_getElem? service ⟨c, .subscribed⟩
  cases hkept : srv.keptText r.messageId service with
  | mk looked kept =>
  cases kept with
  | none =>
    have hserver : srv.subscribe r.messageId s.service =
        (looked, { c with body := Server.event "ping" "connected" }) := by
      simp only [Server.subscribe, hsubscribe, hkept, c]
    have htold : (⟨c, .subscribed⟩ : Handler).told (Server.event "ping" "connected") .waiting =
        ⟨{ c with body := Server.event "ping" "connected" }, .waiting⟩ := by
      simp [Handler.told, c]
    have hmiss : Step srv Holds r _ _ := .miss hhere rfl hkept
    rw [State.join_move, htold] at hmiss
    rw [hserver]
    exact ⟨.waiting, .head hcome (.single hmiss)⟩
  | some text =>
    have hserver : srv.subscribe r.messageId s.service = Server.finishWith text c looked := by
      simp only [Server.subscribe, hsubscribe, hkept, c]
    let told : Handler := (⟨c, .subscribed⟩ : Handler).told (Server.event "result" text) .answered
    have hfind : Step srv Holds r _ _ := .find hhere rfl hkept
    rw [State.join_move] at hfind
    have hleave : Step srv Holds r (s.join looked told) _ :=
      .leave (s.join_getElem? looked told) rfl hfree rfl
    rw [State.join_move] at hleave
    rw [hserver]
    exact ⟨.gone, .head hcome (.head hfind (.single hleave))⟩

/-- Going on where a text has come is taking it out of the channel and leaving. -/
theorem goOn_steps (srv : Server) (Holds : MemoryStore → Depot → Prop) (r : Result) {i n : Nat}
    {c : Connection} {service : Service Site} {text : String}
    (hi : s.handlers[i]? = some ⟨c, .waiting⟩) (hn : c.channel = some n)
    (hreceive : Server.onStreams (Streams.receive n) s.service = (service, .text text))
    (hfree : s.delivery.isSending = false) : ReflTransGen (Step srv Holds r) s
      (s.move (Server.goOn c s.service).1 i ⟨(Server.goOn c s.service).2, .gone⟩) := by
  have hlt : i < s.handlers.length := (List.getElem?_eq_some_iff.mp hi).1
  have hserver : Server.goOn c s.service = Server.finishWith text c service := by
    rw [Server.goOn, hn]
    dsimp only
    rw [hreceive]
  let told : Handler := (⟨c, .waiting⟩ : Handler).told (Server.event "result" text) .answered
  have htake : Step srv Holds r s (s.move service i told) := .receive hi rfl hn hreceive
  have hleave : Step srv Holds r (s.move service i told) _ :=
    .leave (List.getElem?_set_self hlt) rfl hfree rfl
  have hagain (service' : Service Site) (h : Handler) :
      (s.move service i told).move service' i h = s.move service' i h := by
    simp only [State.move, List.set_set]
  rw [hagain] at hleave
  rw [hserver]
  exact .head htake (.single hleave)

/-- Sending to the channels that are left, one after the other. -/
theorem sends_steps (srv : Server) (Holds : MemoryStore → Depot → Prop) {text : String}
    (htext : r.encode = .ok text) (left : List Nat) (hsending : s.delivery = .sending left) :
    ReflTransGen (Step srv Holds r) s { s with
      service := (Server.onStreams (fun t => (left.foldl (Streams.offer text) t, ())) s.service).1
      delivery := .sending [] } := by
  induction left generalizing s with
  | nil =>
    rw [← hsending]
    exact .refl
  | cons n left ih =>
    have hsend : Step srv Holds r s _ := .send hsending htext rfl
    exact .head hsend (ih rfl)

/-- A delivery that succeeds is saving the result, sending it to all who are subscribed, and no more. -/
theorem responders_steps (Holds : MemoryStore → Depot → Prop) {st : ResultStore Site}
    (hst : srv.store = some st) {o : Outside Site}
    (hsave : Outside.lift st.responder r s.service.outside = (o, .done)) {text : String}
    (htext : r.encode = .ok text) (hdue : s.delivery = .due) :
    ReflTransGen (Step srv Holds r) s { s with
      service := { s.service with outside := (srv.responders none r s.service.outside).1 }
      delivery := .done } := by
  let sent : Outside Site := { o with
    shared := { o.shared with streams := o.shared.streams.broadcast r.messageId text } }
  have hpublish : Server.publish r o = (sent, .done) := by
    rw [Server.publish, htext]
  have hserver : srv.responders none r s.service.outside = (sent, .done) := by
    change Responder.callAll [srv.store.map _, some Server.publish, none] r [] s.service.outside = _
    rw [hst, Option.map_some, Responder.callAll, hsave]
    dsimp only
    rw [Responder.callAll, hpublish]
    rfl
  have hsaved : Step srv Holds r s _ := .save hdue hst hsave
  have hannounce : Step srv Holds r _ _ := .announce (s := { s with
    service := { s.service with outside := o }, delivery := .saved }) rfl (.refl _)
  have hsends := sends_steps srv Holds htext _ (s := { s with
    service := { s.service with outside := o }
    delivery := .sending (o.shared.streams.subscriptions r.messageId) }) rfl
  have hfinish : Step srv Holds r _ _ := .finish (s := { s with
    service := { s.service with outside := sent }, delivery := .sending [] }) rfl
  rw [hserver]
  exact .head hsaved (.head hannounce (hsends.tail hfinish))

end AtOneGo

end Courier.Http.Waiting
