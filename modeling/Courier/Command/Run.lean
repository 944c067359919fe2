import Courier.Command.Ending
import Courier.Graph.Diagram
import Courier.Json.Reader
import Courier.Result.Report

/-!
The command that sends one message to a program file and shows the result.
-/

namespace Courier.Command

/-- The text of the payload: that of a file if one is given, where `-` is the standard input. -/
def payloadText (w : Surroundings) (g : Given) : Except Fault String :=
  match g.text "payload-file" with
  | "" => .ok (g.text "payload")
  | "-" => w.input.mapError (·.within "failed to read payload from stdin: ")
  | file => (w.files.read file).mapError (·.within "failed to read payload file: ")

/-- The payload, if there is one. -/
def payloadOf (text : String) : Except Fault (Option (Keyed Value)) :=
  let bad : Fault := ⟨"error parsing payload JSON: not an object", []⟩
  if text = "" then .ok none
  else
    match Json.parse? text with
    | none => .error bad
    | some j =>
      match Result.readBindings none j with
      | some payload => .ok payload
      | none => .error bad

/-- The report of a run with a diagram of the nodes it came by. -/
def traced (p : Program) (events : List Event) (r : Result) : String :=
  let visited := events.filterMap fun
    | .nodeVisit _ _ n _ _ _ => some n
    | _ => none
  let failed := r.failure.bind fun f => if f.nodeId = noNode then none else some f.nodeId
  let diagram := (p.graph.bind fun g => g.diagram? (some ⟨visited, failed⟩)).getD ""
  r.report ++ "\n## Trace\n\n```mermaid\n" ++ diagram ++ "```\n"

/-- What is shown of a result; a result that has no written form cannot be shown as JSON. -/
def shown (g : Given) (p : Program) (events : List Event) (r : Result) : Except Fault String :=
  if g.switch "json" false then
    (r.toJson.map fun j => j.renderIndented "" ++ "\n").mapError fun e => ⟨e.message, []⟩
  else .ok (if g.switch "trace" false then traced p events r else r.report)

/-- The fault of a request that failed. -/
def requestFault (r : Result) : Option Fault :=
  r.failure.map fun f => ⟨"request " ++ r.messageId ++ " failed: " ++ f.message, []⟩

/-- Sends the message and shows what came of it. -/
def sendOne (g : Given) (p : Program) (payload : Option (Keyed Value)) (k : Stack) :
    Stack × String × Option Fault :=
  let m : Message := ⟨g.text "id", p.name, none, payload⟩
  match k.service.send k.setup (fun _ => false) m [] with
  | (s, .error r) => ({ k with service := s }, "", some r.fault)
  | (s, .ok none) =>
    ({ k with service := s }, "", some (Fault.deadline.within "waiting for result: "))
  | (s, .ok (some r)) =>
    match shown g p s.outside.events r with
    | .ok text => ({ k with service := s }, text, requestFault r)
    | .error f => ({ k with service := s }, "", some f)

def runProgram (w : Surroundings) (g : Given) : Ending :=
  match Settings.load w g with
  | .error f => .failed f
  | .ok settings =>
    match (payloadText w g).bind payloadOf with
    | .error f => settings.failed f
    | .ok payload =>
      match settings.stack w true with
      | .error f => settings.failed f
      | .ok k =>
        match k.service.loadFile w.files (g.words.headD "") with
        | .error e => settings.closing k "" (some e.fault)
        | .ok (s, p) =>
          let (k, output, fault) := sendOne g p payload { k with service := s }
          settings.closing k output fault

end Courier.Command
