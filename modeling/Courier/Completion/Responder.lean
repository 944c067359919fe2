import Courier.Mark
import Courier.Result.Basic

/-!
Responders: where a result is delivered to. What a delivery changes is a state of any type, so that
several responders can share one.
-/

namespace Courier

/-- How a delivery ends. -/
inductive Reply
  | done
  | failed (fault : Fault)
  | panicked (text : String)
  deriving DecidableEq

/-- The text of the crash a delivery ended in. -/
def Reply.crash? : Reply → Option String
  | .panicked t => some t
  | _ => none

/-- Delivers a result, changing a state. -/
abbrev Responder (σ : Type) := Result → σ → σ × Reply

namespace Fault

/-- Several faults as one: their texts on lines of their own. -/
def join (fs : List Fault) : Fault :=
  ⟨String.intercalate "\n" (fs.map Fault.message), fs.flatMap Fault.marks⟩

end Fault

namespace Responder

variable {σ : Type}

/-- Calls responders in turn and collects their faults; a crash ends the round. -/
def callAll : List (Option (Responder σ)) → Result → List Fault → σ → σ × Reply
  | [], _, faults, s => (s, if faults.isEmpty then .done else .failed (Fault.join faults))
  | none :: rs, r, faults, s => callAll rs r faults s
  | some respond :: rs, r, faults, s =>
    match respond r s with
    | (s, .done) => callAll rs r faults s
    | (s, .failed f) => callAll rs r (faults ++ [f]) s
    | (s, .panicked t) => (s, .panicked t)

/-- One responder for many; absent ones are passed over. -/
def multi (rs : List (Option (Responder σ))) : Responder σ := fun r s => callAll rs r [] s

end Responder

/-- A slot for one result. -/
abbrev Mailbox := Option Result

namespace Mailbox

def full : Fault := ⟨"chan responder: callback already completed", [.alreadyCompleted]⟩

/-- Fills an empty slot and refuses otherwise. -/
def respond (r : Result) : Mailbox → Mailbox × Reply
  | none => (some r, .done)
  | some old => (some old, .failed full)

/-- Takes the result out of the slot; without one the wait ends with the given fault. -/
def wait (giveUp : Fault) : Mailbox → Mailbox × Except Fault Result
  | some r => (none, .ok r)
  | none => (none, .error giveUp)

end Mailbox
end Courier
