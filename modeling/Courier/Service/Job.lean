import Courier.Completion.Once
import Courier.Run.Execute

/-!
Accepted messages as units of work. A job first runs its program and then hands the result to its
responder; between the two it may wait.
-/

namespace Courier

/-- What a service shares with the world around it: a state of any type, slots for results that someone
waits for, and what was observed and logged so far. -/
structure Outside (σ : Type) where
  shared : σ
  boxes : List Mailbox := []
  events : List Event := []
  log : List Log.Entry := []

namespace Outside

variable {σ : Type}

def logged (es : List Log.Entry) (o : Outside σ) : Outside σ := { o with log := o.log ++ es }

/-- Opens a slot: its number. -/
def openBox (o : Outside σ) : Nat × Outside σ :=
  (o.boxes.length, { o with boxes := o.boxes ++ [none] })

/-- Delivers to a slot. -/
def boxResponder (i : Nat) : Responder (Outside σ) := fun r o =>
  let (box, reply) := Mailbox.respond r (o.boxes[i]?).join
  ({ o with boxes := o.boxes.set i box }, reply)

/-- Takes the result out of a slot. -/
def takeBox (i : Nat) (o : Outside σ) : Outside σ × Option Result :=
  ({ o with boxes := o.boxes.set i none }, (o.boxes[i]?).join)

/-- A responder on the shared state. -/
def lift (r : Responder σ) : Responder (Outside σ) := fun result o =>
  let (s, reply) := r result o.shared
  ({ o with shared := s }, reply)

end Outside

/-- An accepted message: its context, its completion handle, and its run once that is over. -/
structure Job (σ : Type) where
  context : Context
  handle : Once (Outside σ)
  run : Option Execution := none

namespace Job

variable {σ : Type}

def messageId (t : Job σ) : String := t.context.message.id

/-- Runs the program, unless that is done. -/
def execute (e : Engine) (observed : Event → List Log.Entry) (stop : Interrupts) (t : Job σ)
    (o : Outside σ) : Execution × Outside σ :=
  match t.run with
  | some x => (x, o)
  | none =>
    let x := e.execute stop t.context
    (x, { o with events := o.events ++ x.events, log := o.log ++ x.runLogs observed })

/-- The completion handle, which logs under the message it is about. It recovers from a crash of its
responder, so that it can fail but not crash. -/
def completer (t : Job σ) : Completer (Outside σ) := fun r o =>
  let c := t.handle.complete r o
  let mine := c.logs.map fun l => { l with attrs :=
    ("message_id", t.messageId) :: ("program", t.context.message.program) :: l.attrs }
  (c.state.logged mine, c.fault.elim .done .failed)

/-- The request that is served when the job is worked on. -/
def request (t : Job σ) : Request (Outside σ) := ⟨t.context, some t.completer⟩

/-- Hands the result of a run to the responder. -/
def deliver (x : Execution) (t : Job σ) (o : Outside σ) : Outside σ :=
  let (o, logs, _) := t.request.finish x o
  o.logged logs

end Job
end Courier
