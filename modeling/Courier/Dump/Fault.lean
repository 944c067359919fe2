import Courier.Dump.Stable
import Courier.Json.Access
import Courier.Mark
import Courier.Program.Source
import Courier.Run.Walk

/-!
Dumps of errors: the kind, the message without foreign wording, and the marks if there are any.
-/

namespace Courier

open Json (textPair intPair textsPair)

namespace Fault

def dumpAs (kind : String) (f : Fault) (more : List (String × Json)) : Json :=
  let marks := (Mark.ordered f.marks).map Mark.name
  .object ([textPair "error" kind, textPair "message" (Stable.message f.message)] ++
    (if marks.isEmpty then [] else [textsPair "is" marks]) ++ more)

def dump (f : Fault) : Json := f.dumpAs "error" []

end Fault

def Panic.dump : Panic → Json
  | .gap => .object [textPair "error" "panic"]
  | .raised t => .object [textPair "error" "panic", textPair "message" t]

def WalkError.dump (e : WalkError) : Json :=
  let kind := match e with
    | .dispatch .. => "DispatchError"
    | .panicked .. => "PanicError"
    | .stepLimit .. => "StepLimitError"
    | _ => "error"
  e.fault.dumpAs kind []

namespace Source

/-- Whether a source has a table whose key is no text; its reader then crashes. -/
def ParseError.isCrash (e : ParseError) : Bool :=
  match e.cause with
  | .shape es => es.any fun
    | .foreignKey _ => true
    | _ => false
  | _ => false

/-- The dump of a source that is no program; `whole` adds the place. -/
def ParseError.dump (whole : Bool) (e : ParseError) : Json :=
  if e.isCrash then Panic.gap.dump
  else e.fault.dumpAs "ParseError"
    (if whole then [textPair "file" e.file, intPair "index" e.index] else [])

def LoadError.dump (whole : Bool) : LoadError → Json
  | .unread f => f.dump
  | .parse e => e.dump whole

end Source
end Courier
