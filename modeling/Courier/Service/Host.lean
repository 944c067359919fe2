import Courier.Service.Basic
import Courier.Store.Depot
import Courier.Stream

/-!
A service as the servers in front of it see it, and the state they share with it.
-/

namespace Courier

/-- What servers share with the service: kept results and claims, and subscriptions. -/
structure Site where
  depot : Depot := {}
  streams : Streams := {}

namespace Site

def store (s : ResultStore Depot) : ResultStore Site :=
  s.focus (·.depot) fun d t => { t with depot := d }

def claimer (c : Claimer Depot) : Claimer Site :=
  c.focus (·.depot) fun d t => { t with depot := d }

/-- An identifier that was not drawn before. -/
def freshId (t : Site) : String × Site :=
  let (id, d) := t.depot.uuid
  (id, { t with depot := d })

end Site

/-- A message that was not taken; the reason is that of the service, if it was the service that
refused. -/
structure Refusal where
  reason : Option Reason
  fault : Fault

/-- What a server can ask of a service; `settle` is what happens while a server waits. -/
structure Host where
  receive : Message → Option (Responder (Outside Site)) → Service Site → Service Site × Option Refusal
  programs : Service Site → List String
  program : String → Service Site → Except Fault Program
  settle : Service Site → Service Site

namespace Host

/-- A service itself, with the results of some messages held back. -/
def ofSetup (setup : Setup Site) (held : String → Bool) : Host where
  receive m r s :=
    let (s, rejection) := s.receive setup m r
    (s, rejection.map fun j => ⟨some j.reason, j.fault⟩)
  programs s := s.registry.programs
  program name s := s.registry.program name
  settle s := s.settle setup held

/-- A service that neither takes messages nor finds programs. -/
def failing (f : Fault) (h : Host) : Host :=
  { h with
    receive := fun _ _ s => (s, some ⟨none, f⟩)
    program := fun _ _ => .error f }

end Host

namespace Service

variable {σ : Type}

/-- Changes the shared state. -/
def share {α : Type} (f : σ → α × σ) (s : Service σ) : α × Service σ :=
  let (a, t) := f s.outside.shared
  (a, { s with outside := { s.outside with shared := t } })

end Service
end Courier
