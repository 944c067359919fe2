import Courier.Claim.Basic
import Courier.Registry
import Courier.Schema.Decl
import Courier.Service.Rejection
import Courier.Service.Job

/-!
Taking messages. A message is checked in a fixed order and handed to the pool, or turned away with the
reason of the first check that fails; a message that is turned away leaves no claim behind.
-/

namespace Courier

/-- How messages are taken: where fresh ids come from, and how long an id stays claimed, if ids are
claimed at all. -/
structure Admission (σ : Type) where
  freshId : σ → String × σ
  claims : Option (Claimer σ × Int) := none

/-- The outcome of taking a message; `pool` is whatever units are handed to. -/
structure Receipt (σ π : Type) where
  outside : Outside σ
  pool : π
  rejection : Option Rejection

namespace Admission

variable {σ π : Type}

/-- A message without an id gets a fresh one. -/
def identify (a : Admission σ) (m : Message) (o : Outside σ) : Message × Outside σ :=
  if m.id = "" then
    let (id, s) := a.freshId o.shared
    ({ m with id }, { o with shared := s })
  else (m, o)

/-- The checks that need no claim: the program that will run the message. -/
def resolve (registry : Registry) (m : Message) (hasResponder : Bool) :
    Except (Reason × Fault) Program := do
  if m.program = "" then throw (.invalidMessage, Rejection.noProgram)
  if !hasResponder then throw (.invalidMessage, Rejection.noResponder)
  let p ← (registry.program m.program).mapError fun f => (.unknownProgram, f)
  match p.schema.failures m.fields with
  | [] => return p
  | fs => throw (.invalidPayload, ⟨Schema.failureMessage fs, []⟩)

/-- Claims the id of a message, when ids are claimed. -/
def claim (a : Admission σ) (id : String) (s : σ) : σ × Except (Reason × Fault) Unit :=
  match a.claims with
  | none => (s, .ok ())
  | some (c, ttl) =>
    match c.claim id ttl s with
    | (s, .error f) => (s, .error (.unavailable, f))
    | (s, .ok false) => (s, .error (.duplicate, Rejection.duplicate))
    | (s, .ok true) => (s, .ok ())

/-- Gives a claim back: the fault of doing so, if any. -/
def release (a : Admission σ) (id : String) (s : σ) : σ × Option Fault :=
  match a.claims with
  | none => (s, none)
  | some (c, _) => c.release id s

/-- Takes a message: checks it, claims its id and hands its job to the pool. -/
def receive (a : Admission σ) (registry : Registry) (submit : Job σ → π → π × Option Fault)
    (m : Message) (responder : Option (Responder (Outside σ))) (o : Outside σ) (pool : π) :
    Receipt σ π :=
  let (m, o) := a.identify m o
  let mine := [("message_id", m.id), ("program", m.program)]
  let reject (o : Outside σ) (pool : π) (reason : Reason) (f : Fault) : Receipt σ π :=
    ⟨o.logged [⟨.debug, "message rejected", mine ++ [("reason", reason.name), ("err", f.message)]⟩],
      pool, some ⟨m.id, m.program, reason, f⟩⟩
  match resolve registry m responder.isSome with
  | .error (reason, f) => reject o pool reason f
  | .ok p =>
    match a.claim m.id o.shared with
    | (s, .error (reason, f)) => reject { o with shared := s } pool reason f
    | (s, .ok _) =>
      let job : Job σ := ⟨Context.start m (some p), { messageId := m.id, responder }, none⟩
      match submit job pool with
      | (pool, none) =>
        ⟨Outside.logged [⟨.debug, "message accepted", mine⟩] { o with shared := s }, pool, none⟩
      | (pool, some f) =>
        let (s, failed) := a.release m.id s
        let logs := match failed with
          | some g => [⟨.warn, "failed to release claim", mine ++ [("err", g.message)]⟩]
          | none => []
        reject (Outside.logged logs { o with shared := s }) pool (.ofSubmission f) f

end Admission
end Courier
