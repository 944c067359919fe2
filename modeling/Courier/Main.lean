import Courier.Command.Start

/-!
The command line. What is done here is only to look at the world and to write down what the commands
answer: the paths that a command line names are read beforehand.
-/

namespace Courier.Main

/-- The text of a file, if there is one. -/
def readText? (path : String) : IO (Option String) := do
  try return some (Text.ofUtf8 (← IO.FS.readBinFile path).toList)
  catch _ => return none

/-- The names in a directory, if it is one. -/
def namesIn? (dir : String) : IO (Option (List String)) := do
  let here ← IO.currentDir
  try return some ((← (here / dir).readDir).toList.map (·.fileName))
  catch _ => return none

/-- Takes a path into a snapshot: a file with its text, a directory with the files in it. -/
def takePath (fs : Files) (path : String) : IO Files := do
  if path = "" then return fs
  match ← namesIn? path with
  | some names =>
    names.foldlM (fun fs name => do
      let file := Path.join path name
      return ((← readText? file).map (fs.add file)).getD fs) (fs.add (path ++ "/") "")
  | none => return ((← readText? path).map (fs.add path)).getD fs

def takePaths (fs : Files) (paths : List String) : IO Files := paths.foldlM takePath fs

/-- The variables that the settings ask for. -/
def environment : IO Config.Environment := do
  let values ← Config.overrides.mapM fun o => return (o.key, ← IO.getEnv o.key)
  return fun key => (values.find? fun v => v.1 = key).bind Prod.snd

/-- The number of processors as the system lists them. -/
def processors : IO Nat := do
  let lines := Text.split '\n' ((← readText? "/proc/cpuinfo").getD "")
  return Nat.max 1 (lines.filter (Text.startsWith "processor")).length

/-- A number to start drawing identifiers and nonces from. -/
def seed : IO Nat := do
  return (← IO.getRandomBytes 16).toList.foldl (fun n b => n * 256 + b.toNat) 0

/-- All of the standard input. -/
def readInput : IO (Except Fault String) := do
  try return .ok (Text.ofUtf8 (← (← IO.getStdin).readBinToEnd).toList)
  catch e => return .error ⟨toString e, []⟩

/-- What a command finds, as far as its command line says what it will look at. -/
def surroundings (words : List String) : IO Command.Surroundings := do
  let given := match Command.request words with
    | .ok (.command _ g) => g
    | _ => {}
  let environment ← environment
  let file := given.text "payload-file"
  let files ← takePaths .empty (given.words ++ [given.text "config", if file = "-" then "" else file])
  let (config, _) := Config.load files environment (given.text "config")
  let files ← takePath files ((given.text? "programs").getD config.programsDir)
  let input ← if file = "-" then readInput else pure (.ok "")
  return { files, environment, input, depot := { draws := ← seed }, processors := ← processors }

/-- Writes the output, the log and the fault of a command. -/
def finish (e : Command.Ending) : IO UInt32 := do
  (← IO.getStdout).putStr e.output
  let err ← IO.getStderr
  for line in e.logLines do
    err.putStrLn line
  if let some f := e.fault then
    err.putStrLn ("Error: " ++ f.message)
  return e.code.toUInt32

/-- Answers line by line until the input ends. -/
partial def talk (t : Command.Talking) : IO UInt32 := do
  let line ← (← IO.getStdin).getLine
  if line.isEmpty then finish t.finish
  else
    let (t, reply) := t.line line
    if let some r := reply then
      let out ← IO.getStdout
      out.putStrLn r.toJson.render
      out.flush
    talk t

end Courier.Main

/-- A server over HTTP has no network here and stops when its input ends. -/
def main (words : List String) : IO UInt32 := do
  match Courier.Command.start (← Courier.Main.surroundings words) words with
  | .ended e => Courier.Main.finish e
  | .talking t => Courier.Main.talk t
  | .serving s =>
    let _ ← Courier.Main.readInput
    Courier.Main.finish (s.stop "terminated")
