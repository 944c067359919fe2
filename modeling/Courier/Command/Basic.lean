import Courier.Command.Flag
import Courier.Mark
import Courier.Text.Distance
import Courier.Text.Fold

/-!
The commands and what is asked of each: its flags and its plain words.
-/

namespace Courier

inductive Command
  | graph
  | mcp
  | run
  | serve
  | validate
  | version
  deriving DecidableEq

namespace Command

def all : List Command := [graph, mcp, run, serve, validate, version]

def name : Command → String
  | graph => "graph"
  | mcp => "mcp"
  | run => "run"
  | serve => "serve"
  | validate => "validate"
  | version => "version"

/-- The flags that every command knows, short of the one that asks for help. -/
def globalFlags : List Flag := [{ name := "config" }, { name := "log-level" }]

def helpFlag : Flag := { name := "help", kind := .switch, short := some 'h' }

/-- The flags of a command alone. -/
def ownFlags : Command → List Flag
  | graph => []
  | mcp => [{ name := "transport" }, { name := "port", kind := .integer }, { name := "programs" }]
  | run =>
    [{ name := "payload" }, { name := "payload-file" }, { name := "id" },
      { name := "json", kind := .switch }, { name := "trace", kind := .switch }]
  | serve =>
    [{ name := "addr" }, { name := "programs" },
      { name := "watch", kind := .switch, short := some 'w' }, { name := "metrics", kind := .switch }]
  | validate => [{ name := "strict", kind := .switch }]
  | version => []

/-- How many plain words a command takes, if that is fixed. -/
def arity? : Command → Option Nat
  | graph => some 1
  | run => some 1
  | _ => none

end Command

/-- Why a command line is none. -/
inductive CommandError
  | flag (error : Command.FlagError)
  | arity (wanted given : Nat)
  | unknown (word : String) (similar : List String)
  deriving DecidableEq

namespace CommandError

def message : CommandError → String
  | .flag e => e.message
  | .arity wanted given =>
    "accepts " ++ toString wanted ++ " arg(s), received " ++ toString given
  | .unknown word similar =>
    "unknown command " ++ Text.quote word ++ " for \"weft\"" ++
      if similar.isEmpty then ""
      else "\n\nDid you mean this?\n" ++ String.join (similar.map fun s => "\t" ++ s ++ "\n")

def fault (e : CommandError) : Fault := ⟨e.message, []⟩

end CommandError

namespace Command

/-- A command line that was understood: a command with what was given to it, or a call for help. -/
inductive Request
  | command (c : Command) (given : Given)
  | help

/-- Words that show help of one kind or another. -/
def helpWords : List String := ["help", "completion"]

/-- The commands whose names begin with a word or are at most two steps away from it. -/
def similar (word : String) : List String :=
  let word := Text.lower word
  (all.map name ++ ["completion"]).filter fun n =>
    Text.distance word n ≤ 2 || Text.startsWith word n

/-- Reads what was given to a command, or to none. -/
def requestOf (c : Option Command) (words : List String) : Except CommandError Request := do
  let own := match c with
    | some c => c.ownFlags
    | none => []
  let given ← (Given.read (own ++ globalFlags ++ [helpFlag]) words).mapError .flag
  if given.switch "help" false then return .help
  match c with
  | none => return .help
  | some c =>
    match c.arity? with
    | some n => if given.words.length ≠ n then throw (.arity n given.words.length)
    | none => pure ()
    return .command c given

/-- Understands a command line. The first plain word names the command. -/
def request (words : List String) : Except CommandError Request :=
  match plainWords globalFlags words with
  | [] => requestOf none words
  | word :: _ =>
    match all.find? fun c => c.name = word with
    | some c => requestOf (some c) (withoutWord globalFlags word words)
    | none => if helpWords.contains word then .ok .help else .error (.unknown word (similar word))

/-- What is shown to those who ask for help. -/
def usage : String :=
  "Usage:\n  weft [command]\n\nAvailable Commands:\n" ++
    String.join (all.map fun c => "  " ++ c.name ++ "\n")

end Command
end Courier
