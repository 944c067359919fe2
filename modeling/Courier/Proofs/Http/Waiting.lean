import Courier.Proofs.Http.Handlers
import Courier.Proofs.Json.Lines
import Courier.Proofs.Stream

/-! No client misses its result.
A handler that found nothing in the store had subscribed before it looked, and the result is sent only
after it was saved. So the handler is among those to whom the result is sent. -/
namespace Courier.Http.Waiting

/-- The text is the document of a result, and it has one line. -/
structure Tells (text : String) (r : Result) : Prop where
  encode : r.encode = .ok text
  newline : '\n' ∉ text.toList
  carriageReturn : '\r' ∉ text.toList

/-- What a client was sent in the end, when `r` is delivered and `earlier` was kept for its message before:
after a ping the result that is delivered, or else, without a ping, one of the two as the store shows it. -/
inductive Answered (Shows : Result → Result → Prop) (r : Result) (earlier : Option Result) (body : String) :
    Prop
  | sent {text : String} (htext : Tells text r)
      (hbody : body = "event: ping\ndata: connected\n\n" ++ ("event: result\ndata: " ++ text ++ "\n\n"))
  | found {kept shown : Result} {text : String} (hkept : kept = r ∨ earlier = some kept)
      (hshown : Shows kept shown) (htext : Tells text shown)
      (hbody : body = "event: result\ndata: " ++ text ++ "\n\n")

theorem tells_of_encode {r : Result} {text : String} (h : r.encode = .ok text) : Tells text r := by
  have hline := Result.oneLine_of_encode h
  refine ⟨h, ?_, ?_⟩
  · exact fun hc => absurd (hline _ hc) (by decide)
  · exact fun hc => absurd (hline _ hc) (by decide)

/-- The channel of an open subscription: it is listed and open, and nothing but the text of the result
is ever in it. -/
structure Listed (r : Result) (t : Streams) (n : Nat) (c : Channel) : Prop where
  listed : n ∈ t.subscriptions r.messageId
  channel : t.channels[n]? = some c
  isOpen : c.isOpen = true
  text : ∀ x, c.held = some x → r.encode = .ok x

namespace Listed

variable {r : Result} {t : Streams} {n m : Nat} {c : Channel}

theorem lt_length (h : Listed r t n c) : n < t.channels.length :=
  (List.getElem?_eq_some_iff.mp h.channel).1

theorem subscribe (h : Listed r t n c) : Listed r (t.subscribe r.messageId).1 n c where
  listed := by
    rw [Streams.subscriptions_subscribe]
    exact List.mem_append_left _ h.listed
  channel := (Streams.channels_subscribe_of_lt _ t h.lt_length).trans h.channel
  isOpen := h.isOpen
  text := h.text

/-- The channel of a new subscription is empty. -/
theorem subscribe_self (r : Result) (t : Streams) :
    Listed r (t.subscribe r.messageId).1 t.channels.length {} where
  listed := by
    rw [Streams.subscriptions_subscribe]
    exact List.mem_append_right _ List.mem_cons_self
  channel := Streams.channels_subscribe_self _ t
  isOpen := rfl
  text := nofun

theorem offer (h : Listed r t n c) (hne : m ≠ n) (text : String) : Listed r (t.offer text m) n c where
  listed := by
    rw [Streams.subscriptions_offer]
    exact h.listed
  channel := (Streams.channels_offer_of_ne t text hne).trans h.channel
  isOpen := h.isOpen
  text := h.text

theorem offer_self (h : Listed r t n c) {text : String} (htext : r.encode = .ok text) :
    Listed r (t.offer text n) n { c with held := some (c.held.getD text) } where
  listed := by
    rw [Streams.subscriptions_offer]
    exact h.listed
  channel := Streams.channels_offer_self t text h.channel
  isOpen := h.isOpen
  text := by
    intro x hx
    cases Option.some.inj hx
    cases hheld : c.held with
    | none => exact htext
    | some y => exact h.text y hheld

theorem receive (h : Listed r t n c) (hne : m ≠ n) : Listed r (t.receive m).1 n c where
  listed := by
    rw [Streams.subscriptions_receive]
    exact h.listed
  channel := (Streams.channels_receive_of_ne t hne).trans h.channel
  isOpen := h.isOpen
  text := h.text

/-- An open channel gives out the text of the result if it holds it. -/
theorem receive_self (h : Listed r t n c) :
    (t.receive n).2 = c.held.elim .waiting .text ∧
      Listed r (t.receive n).1 n { c with held := none } := by
  obtain ⟨held, isOpen⟩ := c
  have hopen : isOpen = true := h.isOpen
  subst hopen
  cases held with
  | none =>
    have hreceive : t.receive n = (t, .waiting) := by rw [Streams.receive, h.channel]; rfl
    rw [hreceive]
    exact ⟨rfl, h.listed, h.channel, rfl, nofun⟩
  | some x =>
    have hreceive : t.receive n = (t.put n ⟨none, true⟩, .text x) := by
      rw [Streams.receive, h.channel]
    rw [hreceive]
    exact ⟨rfl, h.listed, Streams.channels_put_self t h.lt_length _, rfl, nofun⟩

theorem cancel (h : Listed r t n c) (hne : m ≠ n) : Listed r (t.cancel r.messageId m) n c where
  listed := Streams.mem_subscriptions_cancel _ t hne h.listed
  channel := (Streams.channels_cancel_of_ne _ t hne).trans h.channel
  isOpen := h.isOpen
  text := h.text

end Listed

/-- The result is yet to be sent to a channel, or it is there. -/
def Delivery.Feeds (d : Delivery) (n : Nat) (c : Channel) : Prop :=
  match d with
  | .due => True
  | .saved => True
  | .sending left => n ∈ left ∨ c.held.isSome = true
  | .done => c.held.isSome = true

/-- What holds of a handler at each of its stages. -/
inductive Handler.Sound (Shows : Result → Result → Prop) (r : Result) (earlier : Option Result) (t : Streams)
    (d : Delivery) : Handler → Prop
  | subscribed {n : Nat} {c : Channel} (hn : Listed r t n c) :
      Sound Shows r earlier t d ⟨⟨r.messageId, some n, ""⟩, .subscribed⟩
  | waiting {n : Nat} {c : Channel} (hn : Listed r t n c) (hfeeds : d.Feeds n c) :
      Sound Shows r earlier t d ⟨⟨r.messageId, some n, "event: ping\ndata: connected\n\n"⟩, .waiting⟩
  | answered {n : Nat} {c : Channel} {body : String} (hn : Listed r t n c)
      (hbody : Answered Shows r earlier body) :
      Sound Shows r earlier t d ⟨⟨r.messageId, some n, body⟩, .answered⟩
  | gone {body : String} (hbody : Answered Shows r earlier body) :
      Sound Shows r earlier t d ⟨⟨r.messageId, none, body⟩, .gone⟩

/-- What is kept for the message: the result, from the time on at which it was saved. -/
def Delivery.kept (r : Result) (earlier : Option Result) : Delivery → Option Result
  | .due => earlier
  | _ => some r

/-- The store keeps what it should for the message. -/
def Delivery.Keeps (Holds : MemoryStore → Depot → Prop) (r : Result) (earlier : Option Result)
    (depot : Depot) (d : Delivery) : Prop :=
  ∃ m, Holds m depot ∧ Keyed.get? m r.messageId = d.kept r earlier

theorem Delivery.of_kept {r kept : Result} {earlier : Option Result} {d : Delivery}
    (h : d.kept r earlier = some kept) : kept = r ∨ earlier = some kept := by
  cases d with
  | due => exact .inr h
  | saved | sending | done => exact .inl (Option.some.inj h).symm

/-- The invariant of all orders of steps. No two handlers share a channel. -/
structure Sound (Holds : MemoryStore → Depot → Prop) (Shows : Result → Result → Prop) (r : Result)
    (earlier : Option Result) (s : State) : Prop where
  keeps : s.delivery.Keeps Holds r earlier s.site.depot
  handlers : ∀ (i : Nat) (h : Handler), s.handlers[i]? = some h →
    h.Sound Shows r earlier s.streams s.delivery
  apart : ∀ (i j : Nat) (h h' : Handler) (n : Nat), s.handlers[i]? = some h →
    s.handlers[j]? = some h' → h.connection.channel = some n → h'.connection.channel = some n → i = j

theorem onStreams_eq {α : Type} {f : Streams → Streams × α} {s service : Service Site} {a : α}
    (h : Server.onStreams f s = (service, a)) :
    service.outside.shared.depot = s.outside.shared.depot ∧
      service.outside.shared.streams = (f s.outside.shared.streams).1 ∧
      a = (f s.outside.shared.streams).2 := by
  cases h
  exact ⟨rfl, rfl, rfl⟩

section Look

variable {srv : Server} {base : ResultStore Depot} {id : String} {s service : Service Site}

/-- A look into the store changes nothing but what the store itself does, whether or not it finds a
result. -/
theorem keptText_eq {kept : Option String} (hst : srv.store = some (Site.store base))
    (h : srv.keptText id s = (service, kept)) :
    service.outside.shared.depot = (base.load id s.outside.shared.depot).1 ∧
      service.outside.shared.streams = s.outside.shared.streams := by
  unfold Server.keptText at h
  rw [hst] at h
  dsimp only [Service.share, Site.store, ResultStore.focus] at h
  split at h
  · next heq =>
    obtain ⟨-, hservice⟩ := Prod.mk.inj heq
    cases h
    rw [← hservice]
    exact ⟨rfl, rfl⟩
  · next heq =>
    obtain ⟨-, hservice⟩ := Prod.mk.inj heq
    split_ifs at h
    · cases h
      rw [← hservice]
      exact ⟨rfl, rfl⟩
    · cases h
      rw [← hservice]
      exact ⟨rfl, rfl⟩

/-- A text that is found is that of a result that the store loads. -/
theorem keptText_eq_some {text : String} (hst : srv.store = some (Site.store base))
    (h : srv.keptText id s = (service, some text)) :
    ∃ r : Result, (base.load id s.outside.shared.depot).2 = .ok r ∧ r.encode = .ok text := by
  unfold Server.keptText at h
  rw [hst] at h
  dsimp only [Service.share, Site.store, ResultStore.focus] at h
  split at h
  · next r _ heq =>
    obtain ⟨hload, -⟩ := Prod.mk.inj heq
    obtain ⟨-, htext⟩ := Prod.mk.inj h
    refine ⟨r, hload, ?_⟩
    cases hr : r.encode with
    | error e =>
      rw [hr] at htext
      cases htext
    | ok t =>
      rw [hr] at htext
      cases htext
      rfl
  · split_ifs at h <;> cases h

theorem keptText_of_load (hst : srv.store = some (Site.store base)) {r : Result} {text : String}
    (hload : (base.load id s.outside.shared.depot).2 = .ok r) (htext : r.encode = .ok text) :
    (srv.keptText id s).2 = some text := by
  unfold Server.keptText
  rw [hst]
  dsimp only [Service.share, Site.store, ResultStore.focus]
  rw [hload]
  dsimp only
  rw [htext]
  rfl

end Look

/-- What a delivery to the store did when it succeeded. -/
theorem of_lift_responder {base : ResultStore Depot} {r : Result} {o o' : Outside Site}
    (h : Outside.lift (Site.store base).responder r o = (o', .done)) :
    (base.save r o.shared.depot).2 = none ∧
      o'.shared = { o.shared with depot := (base.save r o.shared.depot).1 } := by
  have hsave : (Site.store base).save r o.shared =
      ({ o.shared with depot := (base.save r o.shared.depot).1 }, (base.save r o.shared.depot).2) := rfl
  unfold Outside.lift ResultStore.responder at h
  rw [hsave] at h
  cases hfault : (base.save r o.shared.depot).2 with
  | none =>
    rw [hfault] at h
    cases h
    exact ⟨rfl, rfl⟩
  | some f =>
    rw [hfault] at h
    cases h

section Invariant

variable {Holds : MemoryStore → Depot → Prop} {Shows : Result → Result → Prop} {r : Result}
  {earlier : Option Result} {s : State}

/-- A handler stays sound when its channel stays listed and is fed by what comes. -/
theorem Handler.Sound.frame {t t' : Streams} {d d' : Delivery} {h : Handler} (hs : h.Sound Shows r earlier t d)
    (hframe : ∀ n c, h.connection.channel = some n → Listed r t n c →
      ∃ c', Listed r t' n c' ∧ (d.Feeds n c → d'.Feeds n c')) : h.Sound Shows r earlier t' d' := by
  cases hs with
  | subscribed hn =>
    obtain ⟨c', hn', -⟩ := hframe _ _ rfl hn
    exact .subscribed hn'
  | waiting hn hfeeds =>
    obtain ⟨c', hn', hfeeds'⟩ := hframe _ _ rfl hn
    exact .waiting hn' (hfeeds' hfeeds)
  | answered hn hbody =>
    obtain ⟨c', hn', -⟩ := hframe _ _ rfl hn
    exact .answered hn' hbody
  | gone hbody => exact .gone hbody

/-- A step in which no handler takes part. -/
theorem Sound.around (hs : Sound Holds Shows r earlier s) {service : Service Site} {d : Delivery}
    (hkeeps : d.Keeps Holds r earlier service.outside.shared.depot)
    (hframe : ∀ n c, Listed r s.streams n c →
      ∃ c', Listed r service.outside.shared.streams n c' ∧ (s.delivery.Feeds n c → d.Feeds n c')) :
    Sound Holds Shows r earlier { s with service, delivery := d } where
  keeps := hkeeps
  handlers := fun i h hi => (hs.handlers i h hi).frame fun n c _ hn => hframe n c hn
  apart := hs.apart

/-- A step of one handler, which keeps its channel or gives it up and leaves those of others alone. -/
theorem Sound.move (hs : Sound Holds Shows r earlier s) {service : Service Site} {i : Nat} {h h' : Handler}
    (hi : s.handlers[i]? = some h) (hkeeps : s.delivery.Keeps Holds r earlier service.outside.shared.depot)
    (hchannel : h'.connection.channel = h.connection.channel ∨ h'.connection.channel = none)
    (hsound : h'.Sound Shows r earlier service.outside.shared.streams s.delivery)
    (hothers : ∀ n c, h.connection.channel ≠ some n → Listed r s.streams n c →
      Listed r service.outside.shared.streams n c) : Sound Holds Shows r earlier (s.move service i h') := by
  have hlt : i < s.handlers.length := (List.getElem?_eq_some_iff.mp hi).1
  -- What stands at a position afterwards: the handler that moved, or the one that stood there.
  have hcases (j : Nat) (g : Handler) (hj : (s.handlers.set i h')[j]? = some g) :
      j = i ∧ g = h' ∨ j ≠ i ∧ s.handlers[j]? = some g := by
    by_cases hji : j = i
    · subst hji
      rw [List.getElem?_set_self hlt] at hj
      exact .inl ⟨rfl, (Option.some.inj hj).symm⟩
    · rw [List.getElem?_set_ne (Ne.symm hji)] at hj
      exact .inr ⟨hji, hj⟩
  have hstays (n : Nat) (hn : h'.connection.channel = some n) : h.connection.channel = some n := by
    rcases hchannel with hsame | hnone
    · rw [← hsame, hn]
    · rw [hnone] at hn
      cases hn
  refine ⟨hkeeps, ?_, ?_⟩
  · intro j g hj
    rcases hcases j g hj with ⟨-, rfl⟩ | ⟨hji, hbefore⟩
    · exact hsound
    · apply (hs.handlers j g hbefore).frame
      intro n c hn hlisted
      have hother : h.connection.channel ≠ some n :=
        fun hown => hji (hs.apart j i g h n hbefore hi hn hown)
      exact ⟨c, hothers n c hother hlisted, id⟩
  · intro j k g g' n hj hk hn hn'
    rcases hcases j g hj with ⟨rfl, rfl⟩ | ⟨-, hbefore⟩
    · rcases hcases k g' hk with ⟨rfl, -⟩ | ⟨-, hbefore'⟩
      · rfl
      · exact hs.apart j k h g' n hi hbefore' (hstays n hn) hn'
    · rcases hcases k g' hk with ⟨rfl, rfl⟩ | ⟨-, hbefore'⟩
      · exact hs.apart j k g h n hbefore hi hn (hstays n hn')
      · exact hs.apart j k g g' n hbefore hbefore' hn hn'

theorem Sound.subscribe (hs : Sound Holds Shows r earlier s) {service : Service Site} {n : Nat}
    (h : Server.onStreams (Streams.subscribe r.messageId) s.service = (service, n)) :
    Sound Holds Shows r earlier { s with
      service, handlers := s.handlers ++ [⟨⟨r.messageId, some n, ""⟩, .subscribed⟩] } := by
  obtain ⟨hdepot, hstreams, rfl⟩ := onStreams_eq h
  change Sound Holds Shows r earlier { s with service, handlers := s.handlers ++
    [⟨⟨r.messageId, some s.streams.channels.length, ""⟩, .subscribed⟩] }
  -- A new channel is behind all those that handlers have already.
  have hbehind (i : Nat) (h : Handler) (hi : s.handlers[i]? = some h) :
      h.connection.channel ≠ some s.streams.channels.length := by
    cases hs.handlers i h hi with
    | subscribed hlisted | waiting hlisted _ | answered hlisted _ =>
      exact fun hn => absurd hlisted.lt_length (by rw [Option.some.inj hn]; exact lt_irrefl _)
    | gone => nofun
  set fresh : Handler := ⟨⟨r.messageId, some s.streams.channels.length, ""⟩, .subscribed⟩
  have hcases (i : Nat) (h : Handler) (hi : (s.handlers ++ [fresh])[i]? = some h) :
      s.handlers[i]? = some h ∨ i = s.handlers.length ∧ h = fresh := by
    rw [List.getElem?_append] at hi
    split_ifs at hi with hlt
    · exact .inl hi
    · have hlast := (List.getElem?_eq_some_iff.mp hi).1
      rw [List.length_singleton] at hlast
      have hzero : i - s.handlers.length = 0 := by omega
      rw [hzero] at hi
      exact .inr ⟨by omega, (Option.some.inj hi).symm⟩
  refine ⟨?_, ?_, ?_⟩
  · change s.delivery.Keeps Holds r earlier service.outside.shared.depot
    rw [hdepot]
    exact hs.keeps
  · intro i h hi
    change h.Sound Shows r earlier service.outside.shared.streams s.delivery
    rw [hstreams]
    rcases hcases i h hi with hi | ⟨-, rfl⟩
    · exact (hs.handlers i h hi).frame fun n c _ hlisted => ⟨c, hlisted.subscribe, id⟩
    · exact .subscribed (.subscribe_self r s.streams)
  · intro i j h h' n hi hj hn hn'
    rcases hcases i h hi with hi | ⟨rfl, rfl⟩
    · rcases hcases j h' hj with hj | ⟨rfl, rfl⟩
      · exact hs.apart i j h h' n hi hj hn hn'
      · cases hn'
        exact absurd hn (hbehind i h hi)
    · rcases hcases j h' hj with hj | ⟨rfl, -⟩
      · cases hn
        exact absurd hn' (hbehind j h' hj)
      · rfl

/-- A handler that waits takes out the text of the result, and never finds its channel closed. -/
theorem Sound.receive (hs : Sound Holds Shows r earlier s) {service : Service Site} {i n : Nat} {h : Handler}
    {received : Streams.Received} (hi : s.handlers[i]? = some h) (hstage : h.stage = .waiting)
    (hn : h.connection.channel = some n)
    (hreceive : Server.onStreams (Streams.receive n) s.service = (service, received)) :
    received ≠ .closed ∧ ∀ text, received = .text text →
      Sound Holds Shows r earlier (s.move service i (h.told (Server.event "result" text) .answered)) := by
  obtain ⟨hdepot, hstreams, rfl⟩ := onStreams_eq hreceive
  have hsound := hs.handlers i h hi
  cases hsound with
  | subscribed | answered | gone => cases hstage
  | @waiting n' c hlisted hfeeds =>
    cases hn
    obtain ⟨hgiven, hlisted'⟩ := hlisted.receive_self
    change (s.streams.receive n).2 ≠ _ ∧ ∀ text, (s.streams.receive n).2 = _ → _
    rw [hgiven]
    cases hheld : c.held with
    | none => exact ⟨nofun, nofun⟩
    | some x =>
      refine ⟨nofun, ?_⟩
      intro text htext
      cases htext
      have hencode := hlisted.text x hheld
      apply hs.move hi
      · rw [hdepot]
        exact hs.keeps
      · exact .inl rfl
      · rw [hstreams]
        exact .answered hlisted' (.sent (tells_of_encode hencode) rfl)
      · intro k c' hother hk
        rw [hstreams]
        exact hk.receive fun heq => hother (congrArg some heq)

theorem Sound.leave (hs : Sound Holds Shows r earlier s) {service : Service Site} {i : Nat} {h : Handler}
    {c : Connection} (hi : s.handlers[i]? = some h) (hstage : h.stage = .answered)
    (hleave : Server.disconnect h.connection s.service = (service, c)) :
    Sound Holds Shows r earlier (s.move service i ⟨c, .gone⟩) := by
  have hsound := hs.handlers i h hi
  cases hsound with
  | subscribed | waiting | gone => cases hstage
  | @answered n c' body hlisted hbody =>
    cases hleave
    apply hs.move hi
    · exact hs.keeps
    · exact .inr rfl
    · exact .gone hbody
    · intro k c'' hother hk
      exact hk.cancel fun heq => hother (congrArg some heq)

section Store

variable {srv : Server} {base : ResultStore Depot} {Accepts : Result → Prop}
  {Shows : Result → Result → Prop}

theorem Delivery.Keeps.load (hkeeps : base.Keeps Holds Accepts Shows) {depot : Depot} {d : Delivery}
    (hd : d.Keeps Holds r earlier depot) (id : String) : d.Keeps Holds r earlier (base.load id depot).1 := by
  obtain ⟨m, hm, hkept⟩ := hd
  exact ⟨m, hkeeps.load hm id, hkept⟩

/-- What the store loads for the message is what is kept for it. -/
theorem Delivery.Keeps.loads (hkeeps : base.Keeps Holds Accepts Shows) {depot : Depot} {d : Delivery}
    (hd : d.Keeps Holds r earlier depot) {shown : Result}
    (hload : (base.load r.messageId depot).2 = .ok shown) :
    ∃ kept, (kept = r ∨ earlier = some kept) ∧ Shows kept shown := by
  obtain ⟨m, hm, hkept⟩ := hd
  cases hget : d.kept r earlier with
  | none =>
    have hmissing := hkeeps.missing hm (hkept.trans hget)
    rw [hload] at hmissing
    cases hmissing
  | some kept =>
    obtain ⟨shown', hload', hshows⟩ := hkeeps.found hm (hkept.trans hget)
    rw [hload] at hload'
    cases hload'
    exact ⟨kept, Delivery.of_kept hget, hshows⟩

/-- The result of a look into the store. -/
theorem Sound.find (hs : Sound Holds Shows r earlier s) (hst : srv.store = some (Site.store base))
    (hkeeps : base.Keeps Holds Accepts Shows) {service : Service Site} {i : Nat} {h : Handler}
    {text : String} (hi : s.handlers[i]? = some h) (hstage : h.stage = .subscribed)
    (hkept : srv.keptText h.connection.id s.service = (service, some text)) :
    Sound Holds Shows r earlier (s.move service i (h.told (Server.event "result" text) .answered)) := by
  obtain ⟨hdepot, hstreams⟩ := keptText_eq hst hkept
  obtain ⟨shown, hload, hencode⟩ := keptText_eq_some hst hkept
  have hsound := hs.handlers i h hi
  cases hsound with
  | waiting | answered | gone => cases hstage
  | subscribed hlisted =>
    obtain ⟨kept, hkept, hshown⟩ := hs.keeps.loads hkeeps hload
    apply hs.move hi
    · rw [hdepot]
      exact hs.keeps.load hkeeps _
    · exact .inl rfl
    · rw [hstreams]
      refine .answered hlisted (.found hkept hshown (tells_of_encode hencode) ?_)
      exact String.empty_append
    · intro n c _ hn
      rw [hstreams]
      exact hn

/-- A handler that finds nothing has looked before the result was saved. -/
theorem Sound.miss (hs : Sound Holds Shows r earlier s) (hst : srv.store = some (Site.store base))
    (hkeeps : base.Keeps Holds Accepts Shows)
    (hshows : ∀ r', Shows r r' → ∃ text, r'.encode = .ok text) {service : Service Site} {i : Nat}
    {h : Handler} (hi : s.handlers[i]? = some h) (hstage : h.stage = .subscribed)
    (hkept : srv.keptText h.connection.id s.service = (service, none)) :
    Sound Holds Shows r earlier (s.move service i (h.told (Server.event "ping" "connected") .waiting)) := by
  obtain ⟨hdepot, hstreams⟩ := keptText_eq hst hkept
  have hsound := hs.handlers i h hi
  cases hsound with
  | waiting | answered | gone => cases hstage
  | @subscribed n c hlisted =>
    have hdue : s.delivery.Feeds n c := by
      have hd := hs.keeps
      cases hdelivery : s.delivery with
      | due => trivial
      | saved | sending | done =>
        rw [hdelivery] at hd
        obtain ⟨m, hm, hr⟩ := hd
        obtain ⟨r', hload, hshow⟩ := hkeeps.found hm hr
        obtain ⟨text, htext⟩ := hshows r' hshow
        have hfound := keptText_of_load hst hload htext
        rw [hkept] at hfound
        cases hfound
    apply hs.move hi
    · rw [hdepot]
      exact hs.keeps.load hkeeps _
    · exact .inl rfl
    · rw [hstreams]
      exact .waiting hlisted hdue
    · intro k c' _ hk
      rw [hstreams]
      exact hk

theorem Sound.save (hs : Sound Holds Shows r earlier s) (hst : srv.store = some (Site.store base))
    (hkeeps : base.Keeps Holds Accepts Shows) (hvalid : r.Valid) {st : ResultStore Site}
    {o : Outside Site} (hdue : s.delivery = .due) (hst' : srv.store = some st)
    (hsave : Outside.lift st.responder r s.service.outside = (o, .done)) :
    Sound Holds Shows r earlier { s with service := { s.service with outside := o }, delivery := .saved } := by
  rw [hst] at hst'
  cases hst'
  obtain ⟨hfault, hshared⟩ := of_lift_responder hsave
  apply hs.around
  · have hd := hs.keeps
    rw [hdue] at hd
    obtain ⟨m, hm, -⟩ := hd
    -- A store that refuses a result says so.
    have haccepts : Accepts r := by
      by_contra hrefused
      obtain ⟨⟨f, hf⟩, -⟩ := hkeeps.refuse hm hrefused
      exact absurd (hfault.symm.trans hf) nofun
    obtain ⟨-, hholds⟩ := hkeeps.save hm hvalid haccepts
    refine ⟨_, ?_, Keyed.get?_insert_self m r.messageId r⟩
    change Holds _ o.shared.depot
    rw [hshared]
    exact hholds
  · intro n c hn
    change ∃ c', Listed r o.shared.streams n c' ∧ _
    rw [hshared]
    exact ⟨c, hn, fun _ => trivial⟩

end Store

theorem Sound.announce (hs : Sound Holds Shows r earlier s) {left : List Nat} (hsaved : s.delivery = .saved)
    (hleft : left.Perm (s.streams.subscriptions r.messageId)) :
    Sound Holds Shows r earlier { s with delivery := .sending left } := by
  apply hs.around
  · have hd := hs.keeps
    rw [hsaved] at hd
    exact hd
  · intro n c hn
    exact ⟨c, hn, fun _ => .inl (hleft.mem_iff.mpr hn.listed)⟩

theorem Sound.send (hs : Sound Holds Shows r earlier s) {service : Service Site} {n : Nat} {left : List Nat}
    {text : String} (hsending : s.delivery = .sending (n :: left)) (htext : r.encode = .ok text)
    (hoffer : Server.onStreams (fun t => (t.offer text n, ())) s.service = (service, ())) :
    Sound Holds Shows r earlier { s with service, delivery := .sending left } := by
  obtain ⟨hdepot, hstreams, -⟩ := onStreams_eq hoffer
  apply hs.around
  · have hd := hs.keeps
    rw [hsending] at hd
    rw [hdepot]
    exact hd
  · intro k c hk
    rw [hstreams, hsending]
    by_cases hkn : n = k
    · subst hkn
      exact ⟨_, hk.offer_self htext, fun _ => .inr rfl⟩
    · refine ⟨c, hk.offer hkn text, ?_⟩
      rintro (hwaits | hfed)
      · exact .inl ((List.mem_cons.mp hwaits).resolve_left (Ne.symm hkn))
      · exact .inr hfed

theorem Sound.finish (hs : Sound Holds Shows r earlier s) (hsent : s.delivery = .sending []) :
    Sound Holds Shows r earlier { s with delivery := .done } := by
  apply hs.around
  · have hd := hs.keeps
    rw [hsent] at hd
    exact hd
  · intro n c hn
    rw [hsent]
    refine ⟨c, hn, ?_⟩
    intro hfeeds
    exact hfeeds.resolve_left List.not_mem_nil

theorem Sound.meanwhile (hs : Sound Holds Shows r earlier s) {service : Service Site}
    (h : Elsewhere Holds r.messageId s.site service.outside.shared) :
    Sound Holds Shows r earlier { s with service } := by
  apply hs.around
  · obtain ⟨m, hm, hkept⟩ := hs.keeps
    obtain ⟨m', hm', hsame⟩ := h.kept m hm
    exact ⟨m', hm', hsame.trans hkept⟩
  · intro n c hn
    have hlisted : Listed r service.outside.shared.streams n c :=
      ⟨h.subscriptions ▸ hn.listed, (h.channels n hn.listed).trans hn.channel, hn.isOpen, hn.text⟩
    exact ⟨c, hlisted, id⟩

end Invariant

section Runs

variable {srv : Server} {base : ResultStore Depot} {Holds : MemoryStore → Depot → Prop}
  {Accepts : Result → Prop} {Shows : Result → Result → Prop} {r : Result} {earlier : Option Result}
  {s s' : State}

theorem Sound.step (hst : srv.store = some (Site.store base))
    (hkeeps : base.Keeps Holds Accepts Shows) (hvalid : r.Valid)
    (hshows : ∀ r', Shows r r' → ∃ text, r'.encode = .ok text) (hs : Sound Holds Shows r earlier s)
    (hstep : Step srv Holds r s s') : Sound Holds Shows r earlier s' := by
  cases hstep with
  | subscribe _ h => exact hs.subscribe h
  | find hi hstage hkept => exact hs.find hst hkeeps hi hstage hkept
  | miss hi hstage hkept => exact hs.miss hst hkeeps hshows hi hstage hkept
  | receive hi hstage hn hreceive => exact (hs.receive hi hstage hn hreceive).2 _ rfl
  | closed hi hstage hn hreceive => exact absurd rfl (hs.receive hi hstage hn hreceive).1
  | leave hi hstage _ hleave => exact hs.leave hi hstage hleave
  | save hdue hst' hsave => exact hs.save hst hkeeps hvalid hdue hst' hsave
  | announce hsaved hleft => exact hs.announce hsaved hleft
  | send hsending htext hoffer => exact hs.send hsending htext hoffer
  | finish hsent => exact hs.finish hsent
  | meanwhile h => exact hs.meanwhile h

theorem Reachable.sound (hst : srv.store = some (Site.store base))
    (hkeeps : base.Keeps Holds Accepts Shows) (hvalid : r.Valid)
    (hshows : ∀ r', Shows r r' → ∃ text, r'.encode = .ok text) (h : Reachable srv Holds r earlier s) :
    Sound Holds Shows r earlier s := by
  obtain ⟨service, m, hm, hearlier, hrun⟩ := h
  induction hrun with
  | refl => exact ⟨⟨m, hm, hearlier⟩, nofun, nofun⟩
  | tail _ hstep ih => exact ih.step hst hkeeps hvalid hshows hstep

/-- No client misses its result, in whatever order the delivery of a result and any number of clients
that wait for it take their steps: once the delivery is done, a handler that waits has the text of the
result in its channel, and a handler that has gone has sent its client one event with a result on one
line. If it has sent a ping before, that is the result that was delivered, and else it is what the store
kept for the message: that result again, or one of an earlier delivery. -/
theorem Reachable.nobody_misses (hst : srv.store = some (Site.store base))
    (hkeeps : base.Keeps Holds Accepts Shows) (hvalid : r.Valid)
    (hshows : ∀ r', Shows r r' → ∃ text, r'.encode = .ok text) (h : Reachable srv Holds r earlier s) :
    (s.delivery = .done → ∀ h ∈ s.handlers, h.stage = .waiting → ∃ n text,
      h.connection.channel = some n ∧ r.encode = .ok text ∧
        (s.streams.receive n).2 = .text text) ∧
    ∀ h ∈ s.handlers, h.stage = .gone → Answered Shows r earlier h.connection.body := by
  have hs := h.sound hst hkeeps hvalid hshows
  constructor
  · intro hdone h hmem hstage
    obtain ⟨i, hi⟩ := List.getElem?_of_mem hmem
    have hsound := hs.handlers i h hi
    rw [hdone] at hsound
    cases hsound with
    | subscribed | answered | gone => cases hstage
    | @waiting n c hlisted hfed =>
      obtain ⟨text, htext⟩ := Option.isSome_iff_exists.mp hfed
      obtain ⟨hgiven, -⟩ := hlisted.receive_self
      rw [htext] at hgiven
      exact ⟨n, text, rfl, hlisted.text text htext, hgiven⟩
  · intro h hmem hstage
    obtain ⟨i, hi⟩ := List.getElem?_of_mem hmem
    cases hs.handlers i h hi with
    | subscribed | waiting | answered => cases hstage
    | gone hbody => exact hbody

end Runs

/-- A result whose text has two lines. -/
def verse : Result := { Result.blank with messageId := "m", value := .text "roses\nviolets" }

theorem verse_valid : verse.Valid where
  value := .text _
  bindings_sorted := .nil
  bindings_valid := nofun
  steps := ⟨by decide, by decide⟩
  nodeId := nofun
  nanos := by decide
  duration := ⟨by decide, by decide⟩

/-- One client comes before the result is saved and waits for it, another one comes before it is sent
and finds it. -/
theorem Reachable.nobody_misses_verse : ∃ (srv : Server) (s : State),
    Reachable srv (fun m d => m = d.memory) verse none s ∧ s.delivery = .done ∧
    s.handlers.map Handler.stage = [.waiting, .gone] ∧
    (∀ h ∈ s.handlers, h.stage = .waiting → ∃ n text, h.connection.channel = some n ∧
      verse.encode = .ok text ∧ (s.streams.receive n).2 = .text text) ∧
    ∀ h ∈ s.handlers, h.stage = .gone → Answered Eq verse none h.connection.body := by
  let srv : Server :=
    { host := .ofSetup { admission := ⟨Site.freshId, none⟩ } fun _ => false
      store := some (Site.store Depot.memoryStore) }
  have hencoded : verse.encode.isOk = true := by decide +kernel
  cases htext : verse.encode with
  | error e =>
    rw [htext] at hencoded
    cases hencoded
  | ok text =>
    have hst : srv.store = some (Site.store Depot.memoryStore) := rfl
    have hfound (s : Service Site)
        (hs : (Depot.memoryStore.load "m" s.outside.shared.depot).2 = .ok verse) :
        srv.keptText "m" s = ((srv.keptText "m" s).1, some text) := by
      rw [← keptText_of_load hst hs htext]
    have hstart : Reachable srv (fun m d => m = d.memory) verse none
        ⟨{ pool := { size := ⟨1, 1⟩ }, outside := { shared := {} } }, .due, []⟩ := .start rfl rfl
    -- The second client looks while the result is being sent, and leaves before the first one has read
    -- what was sent to it.
    have hrun := hstart
      |>.step (.subscribe rfl rfl)
      |>.step (.miss (i := 0) rfl rfl rfl)
      |>.step (.save rfl rfl rfl)
      |>.step (.subscribe rfl rfl)
      |>.step (.announce rfl (.swap 0 1 []))
      |>.step (.find (i := 1) rfl rfl (hfound _ rfl))
      |>.step (.send rfl htext rfl)
      |>.step (.send rfl htext rfl)
      |>.step (.finish rfl)
      |>.step (.leave (i := 1) rfl rfl rfl rfl)
    obtain ⟨hwaits, hgone⟩ := hrun.nobody_misses hst (MemoryStore.keeps.focus fun _ _ => rfl)
      verse_valid (by rintro _ rfl; exact ⟨text, htext⟩)
    rw [← htext]
    exact ⟨srv, _, hrun, rfl, rfl, hwaits rfl, hgone⟩

end Courier.Http.Waiting
