import Courier.Text.Blank
import Courier.Value.Basic

/-!
Inbound messages, and reading a payload along a path of field names.
-/

namespace Courier

/-- A request addressed to a program. -/
structure Message where
  id : String
  program : String
  headers : Option (Keyed String)
  payload : Option (Keyed Value)
  deriving Inhabited

namespace Message

/-- The payload, empty when the message has none. -/
def fields (m : Message) : Keyed Value := m.payload.getD []

/-- Follows a list of field names down through records. -/
def follow : Value → List String → Option Value
  | v, [] => some v
  | .record fs, name :: names =>
    match Keyed.get? fs name with
    | some v => follow v names
    | none => none
  | _, _ :: _ => none

/-- The value at a path of field names with points between them. -/
def lookup (m : Message) (path : String) : Option Value :=
  if path = "" then none else follow (.record m.fields) (Text.split '.' path)

end Message
end Courier
