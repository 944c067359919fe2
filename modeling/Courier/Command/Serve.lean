import Courier.Command.Ending
import Courier.Command.Watch
import Courier.Http.Address
import Courier.Mcp.Rpc

/-!
The commands that start a server: over HTTP, or for agents, over HTTP or line by line over the
standard streams. A server goes on until a signal comes or its input ends.
-/

namespace Courier.Command

/-- Which server is reached over HTTP. -/
inductive ServerKind
  | messages
  | agents
  deriving DecidableEq

/-- A server that waits for a signal. -/
structure Serving where
  kind : ServerKind
  settings : Settings
  stack : Stack
  files : Files
  watched : Option String := none

/-- A server that reads messages line by line. -/
structure Talking where
  settings : Settings
  stack : Stack

/-- A command that is over, or a server that goes on. -/
inductive Started
  | ended (e : Ending)
  | serving (s : Serving)
  | talking (t : Talking)

namespace Serving

/-- A file appears or changes. -/
def put (name content : String) (s : Serving) : Serving :=
  let files := s.files.add name content
  let s := { s with files }
  match s.watched.bind fun dir => Watch.reload? files dir name s.stack.service with
  | some (service, _) => { s with stack := { s.stack with service } }
  | none => s

/-- A signal ends the server. -/
def stop (signal : String) (s : Serving) : Ending :=
  let say (text : String) (attrs : List (String × String)) (k : Stack) : Stack :=
    k.logged [⟨.info, text, attrs⟩]
  let k := match s.kind with
    | .messages =>
      say "weft server stopped gracefully" []
        (say "Start shutdown" [("signal", signal)] s.stack).close
    | .agents =>
      (say "MCP server stopped gracefully" []
        (say "shutdown signal received, stopping MCP server" [] s.stack)).close
  { level := s.settings.level, log := k.log }

end Serving

namespace Talking

/-- Takes a line: the reply to it, if there is one. -/
def line (text : String) (t : Talking) : Talking × Option Mcp.Reply :=
  let (s, reply) := Mcp.Server.handle ⟨t.stack.host, some t.stack.store⟩ text t.stack.service
  ({ t with stack := Stack.settle { t.stack with service := s } }, reply)

/-- The input is over. -/
def finish (t : Talking) : Ending := t.settings.closing t.stack "" none

end Talking

/-- Settings with the directory of programs that was asked for. -/
def Settings.withPrograms (g : Given) (s : Settings) : Settings :=
  match g.text? "programs" with
  | some dir => { s with config := { s.config with programsDir := dir } }
  | none => s

/-- Texts as a list in brackets. -/
def listText (ss : List String) : String := "[" ++ String.intercalate " " ss ++ "]"

/-- Watches the directory of programs, if asked. -/
def watching (g : Given) (files : Files) (dir : String) (k : Stack) : Stack × Option String :=
  if g.switch "watch" false then
    match Watch.fault? files dir with
    | none => (k.logged [Watch.startEntry dir], some dir)
    | some f => (k.logged [⟨.error, "watcher stopped", [("err", f.message)]⟩], none)
  else (k, none)

/-- Starts the server that takes messages. -/
def serveMessages (w : Surroundings) (g : Given) : Started :=
  match Settings.load w g with
  | .error f => .ended (.failed f)
  | .ok settings =>
    let settings := settings.withPrograms g
    let addr := (g.text? "addr").getD settings.config.addr
    let dir := settings.config.programsDir
    match settings.stack w (settings.level.rank ≤ Log.Level.debug.rank) with
    | .error f => .ended (settings.failed f)
    | .ok k =>
      let failed (k : Stack) (f : Fault) : Started := .ended (settings.closing k "" (some f))
      match k.ping with
      | some f => failed k (f.within "result store unreachable: ")
      | none =>
        match k.service.loadDir w.files dir with
        | .error e => failed k e.fault
        | .ok s =>
          let (k, watched) := watching g w.files dir { k with service := s }
          let k := k.logged [⟨.info, "Starting weft server",
            [("addr", addr), ("programs", listText s.registry.programs)]⟩]
          match Http.Address.fault? addr with
          | some f => failed k (f.within "server error: ")
          | none => .serving ⟨.messages, settings, k, w.files, watched⟩

/-- Starts the server for agents. -/
def serveAgents (w : Surroundings) (g : Given) : Started :=
  match Settings.load w g with
  | .error f => .ended (.failed f)
  | .ok settings =>
    let settings := settings.withPrograms g
    match settings.stack w false with
    | .error f => .ended (settings.failed f)
    | .ok k =>
      let failed (k : Stack) (f : Fault) : Started := .ended (settings.closing k "" (some f))
      match k.service.loadDir w.files settings.config.programsDir with
      | .error e => failed k e.fault
      | .ok s =>
        let k := { k with service := s }
        match (g.text? "transport").getD "stdio" with
        | "stdio" =>
          .talking ⟨settings, k.logged [⟨.info, "Starting weft MCP server (stdio)", []⟩]⟩
        | "sse" =>
          let port := toString (g.integer "port" 8080)
          let k := k.logged [⟨.info, "Starting weft MCP server (SSE)", [("port", port)]⟩,
            ⟨.info, "MCP server listening (SSE)", [("address", ":" ++ port)]⟩]
          match Http.Address.fault? (":" ++ port) with
          | some f => failed k f
          | none => .serving ⟨.agents, settings, k, w.files, none⟩
        | other =>
          failed k ⟨"unknown transport " ++ Text.quote other ++ ", supported: stdio, sse", []⟩

end Courier.Command
