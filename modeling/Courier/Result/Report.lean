import Courier.Json.Writer
import Courier.Result.Basic
import Courier.Time.Duration
import Courier.Value.Json
import Courier.Value.Show

/-!
A result as a markdown report.
-/

namespace Courier.Result

/-- A value as JSON, or as it is displayed when it has no JSON form. -/
def valueText (v : Value) : String :=
  match v.toJson with
  | .ok j => j.render
  | .error _ => v.display

def replySection (r : Result) : String :=
  if r.value.isNull then ""
  else "\n## Reply\n\n```json\n" ++ valueText r.value ++ "\n```\n"

def bindingsSection (r : Result) : String :=
  match r.bindings.getD [] with
  | [] => ""
  | bs =>
    "\n## Bindings\n\n| name | value |\n|---|---|\n" ++
      String.join (bs.map fun b => "| `" ++ b.1 ++ "` | `" ++ valueText b.2 ++ "` |\n")

def failureSection (r : Result) : String :=
  match r.failure with
  | none => ""
  | some f =>
    "\n## Failure\n\n- **kind**: " ++ f.kind.text ++ "\n- **node**: " ++ toString f.nodeId ++
      " (" ++ f.nodeKind ++ ")\n" ++
      (if f.statement = "" then "" else "- **statement**: `" ++ f.statement ++ "`\n") ++
      "\n> " ++ f.message ++ "\n"

/-- Heading and facts, then the reply, the bindings and the failure as far as there are any. -/
def report (r : Result) : String :=
  "# " ++ r.program ++ "\n\n- **message**: `" ++ r.messageId ++ "`\n- **status**: " ++
    r.status.text ++ "\n- **steps**: " ++ toString r.steps ++ "\n- **duration**: " ++
    Duration.text r.duration ++ "\n" ++ replySection r ++ bindingsSection r ++ failureSection r

end Courier.Result
