import Courier.Pool.Settle
import Courier.Program.Source
import Courier.Service.Admission

/-!
A service: registered programs, a pool that is started by the first message, and the checks in front
of it. Operations only move units about; `settle` lets the pool work.
-/

namespace Courier

/-- What a service is set up with: how programs are run, what an observer logs about each event,
and how messages are taken. -/
structure Setup (σ : Type) where
  engine : Engine := {}
  observed : Event → List Log.Entry := fun _ => []
  admission : Admission σ

structure Service (σ : Type) where
  registry : Registry := []
  pool : Pool.Lazy (Job σ)
  outside : Outside σ

/-- Why a program file cannot be loaded into a service. -/
inductive Service.LoadError
  | source (error : Source.LoadError)
  | register (fault : Fault)

def Service.LoadError.fault : Service.LoadError → Fault
  | .source e => e.fault
  | .register f => f

namespace Service

variable {σ : Type}

def logged (es : List Log.Entry) (s : Service σ) : Service σ :=
  { s with outside := s.outside.logged es }

/-- Replaces the pool and logs what happened to it. -/
def withPool (pool : Pool.Lazy (Job σ)) (s : Service σ) : Service σ :=
  logged (Pool.Lazy.stateLogs s.pool pool) { s with pool }

def register (p : Option Program) (s : Service σ) : Except Fault (Service σ) :=
  (s.registry.register p).map fun r =>
    let attrs := match p with
      | some p =>
        [("program", p.name), ("nodes", toString ((p.graph.map fun g => g.nodes.length).getD 0))]
      | none => []
    logged [⟨.debug, "program registered", attrs⟩] { s with registry := r }

/-- Compiles and registers a program file. -/
def loadFile (fs : Files) (path : String) (s : Service σ) :
    Except LoadError (Service σ × Program) := do
  let p ← (Source.parseFile fs path).mapError .source
  let s ← (s.register (some p)).mapError .register
  return (s, p)

/-- Registers programs in turn, up to one that is refused. -/
def registerAll : List Program → Service σ → Service σ × Option Fault
  | [], s => (s, none)
  | p :: ps, s =>
    match s.register (some p) with
    | .ok s => registerAll ps s
    | .error f => (s, some f)

/-- Compiles and registers the program files of a directory: the service with all that was registered,
and why it is not everything. -/
def loadPrograms (fs : Files) (dir : String) (s : Service σ) : Service σ × Option LoadError :=
  match Source.loadDir fs dir with
  | .error e => (s, some (.source e))
  | .ok ps =>
    match s.registerAll ps with
    | (s, some f) => (s, some (.register f))
    | (s, none) =>
      (s.logged [⟨.info, "programs loaded", [("dir", dir), ("count", toString ps.length)]⟩], none)

/-- The same for those to whom a service without all programs is of no use. -/
def loadDir (fs : Files) (dir : String) (s : Service σ) : Except LoadError (Service σ) :=
  match s.loadPrograms fs dir with
  | (s, none) => .ok s
  | (_, some e) => .error e

/-- Takes a message. -/
def receive (setup : Setup σ) (m : Message) (responder : Option (Responder (Outside σ)))
    (s : Service σ) : Service σ × Option Rejection :=
  let submit (t : Job σ) (l : Pool.Lazy (Job σ)) : Pool.Lazy (Job σ) × Option Fault :=
    let (l, e) := l.submit (some t); (l, e.map Pool.SubmitError.fault)
  let r := setup.admission.receive s.registry submit m responder s.outside s.pool
  (withPool r.pool { s with outside := r.outside }, r.rejection)

/-- What a worker does with a job: it runs the program and delivers the result, but waits before the
delivery while that is held back. -/
def work (setup : Setup σ) (held : String → Bool) : Pool.Work (Job σ) (Outside σ) :=
  fun stop t o =>
    let (x, o) := t.execute setup.engine setup.observed
      (fun _ => if stop then some .canceled else none) o
    if held t.messageId then (o, .waits { t with run := some x })
    else (t.deliver x o, .ended false)

/-- Lets the pool work, holding back the results of some messages. -/
def settle (setup : Setup σ) (held : String → Bool) (s : Service σ) : Service σ :=
  let (pool, outside) := s.pool.settle (work setup held) s.outside
  withPool pool { s with outside }

/-- Takes no more messages. -/
def close (s : Service σ) : Service σ := s.withPool s.pool.close

/-- Takes no more messages and lets the pool work. -/
def shutdown (setup : Setup σ) (held : String → Bool) (s : Service σ) : Service σ :=
  s.close.settle setup held

/-- Sends a message and lets the pool work: the result, or none when it did not arrive. Other
responders are called before the sender's. -/
def send (setup : Setup σ) (held : String → Bool) (m : Message)
    (extra : List (Option (Responder (Outside σ)))) (s : Service σ) :
    Service σ × Except Rejection (Option Result) :=
  let (box, o) := s.outside.openBox
  let mine : Responder (Outside σ) := Outside.boxResponder box
  let responder := if extra.isEmpty then mine else Responder.multi (extra ++ [some mine])
  let (s, rejection) := receive setup m (some responder) { s with outside := o }
  match rejection with
  | some r => (s, .error r)
  | none =>
    let s := s.settle setup held
    let (o, result) := s.outside.takeBox box
    ({ s with outside := o }, .ok result)

end Service
end Courier
