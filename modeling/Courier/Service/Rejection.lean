import Courier.Mark
import Courier.Text.Quoted

/-!
Why a message is not taken.
-/

namespace Courier

/-- The check at which a message was turned away. -/
inductive Reason
  | invalidMessage | unknownProgram | invalidPayload | duplicate | saturated | closed | unavailable
  deriving DecidableEq

namespace Reason

def name : Reason → String
  | .invalidMessage => "invalid_message"
  | .unknownProgram => "unknown_program"
  | .invalidPayload => "invalid_payload"
  | .duplicate => "duplicate"
  | .saturated => "saturated"
  | .closed => "closed"
  | .unavailable => "unavailable"

/-- The reason behind a refusal by the pool. -/
def ofSubmission (f : Fault) : Reason :=
  if f.marks.contains .saturated then .saturated
  else if f.marks.contains .poolClosed then .closed
  else .unavailable

end Reason

/-- A message that was turned away. -/
structure Rejection where
  messageId : String
  program : String
  reason : Reason
  cause : Fault

namespace Rejection

def message (r : Rejection) : String :=
  "message " ++ r.messageId ++ " for program " ++ Text.quote r.program ++ " rejected (" ++
    r.reason.name ++ "): " ++ r.cause.message

def fault (r : Rejection) : Fault := ⟨r.message, .rejected :: r.cause.marks⟩

def noProgram : Fault := ⟨"message names no program", []⟩

def noResponder : Fault := ⟨"message has no responder", []⟩

def duplicate : Fault := ⟨"duplicate message", [.duplicate]⟩

end Rejection
end Courier
