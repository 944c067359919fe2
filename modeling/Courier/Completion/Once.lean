import Courier.Completion.Responder
import Courier.Log.Entry

/-!
One-shot completion: the first result goes to the responder, every later one is refused.
-/

namespace Courier

/-- The completion handle of a message. -/
structure Once (σ : Type) where
  messageId : String
  responder : Option (Responder σ)
  completed : Bool := false

/-- What a completion did: the state afterwards, its fault if any, and what was logged. -/
structure Completed (σ : Type) where
  handle : Once σ
  state : σ
  fault : Option Fault
  logs : List Log.Entry

namespace Once

variable {σ : Type}

def refusal (o : Once σ) : Fault :=
  ⟨"message " ++ o.messageId ++ ": callback already completed", [.alreadyCompleted]⟩

/-- A result without a message id gets the one of the handle. -/
def addressed (o : Once σ) (r : Result) : Result :=
  if r.messageId = "" then { r with messageId := o.messageId } else r

/-- Delivers the first result. A responder that crashes counts as one that failed. -/
def complete (o : Once σ) (r : Result) (s : σ) : Completed σ :=
  if o.completed then
    ⟨o, s, some o.refusal, [⟨.error, "completion callback invoked twice",
      [("message_id", o.messageId), ("status", r.status.text)]⟩]⟩
  else
    let handle := { o with completed := true }
    match o.responder with
    | none => ⟨handle, s, none, []⟩
    | some respond =>
      match respond (o.addressed r) s with
      | (s, .done) => ⟨handle, s, none, []⟩
      | (s, .failed f) =>
        ⟨handle, s, some f, [⟨.warn, "responder failed",
          [("message_id", o.messageId), ("err", f.message)]⟩]⟩
      | (s, .panicked t) =>
        ⟨handle, s, some ⟨"responder panicked: " ++ t, []⟩, [⟨.error, "responder panicked",
          [("message_id", o.messageId), ("panic", t)]⟩]⟩

end Once
end Courier
