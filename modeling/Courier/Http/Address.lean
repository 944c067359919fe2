import Courier.Mark
import Courier.Text.Fold

/-!
Addresses to listen on: a host, which may be empty, and a port behind the last colon. A host with
colons of its own stands in brackets.
-/

namespace Courier.Http

/-- What is wrong with an address. -/
inductive AddressError
  | missingPort
  | tooManyColons
  | missingBracket
  | unexpectedOpening
  | unexpectedClosing
  | unknownPort (port : String)
  | invalidPort (port : String)
  deriving DecidableEq

def AddressError.message (address : String) : AddressError → String
  | .missingPort => "address " ++ address ++ ": missing port in address"
  | .tooManyColons => "address " ++ address ++ ": too many colons in address"
  | .missingBracket => "address " ++ address ++ ": missing ']' in address"
  | .unexpectedOpening => "address " ++ address ++ ": unexpected '[' in address"
  | .unexpectedClosing => "address " ++ address ++ ": unexpected ']' in address"
  | .unknownPort port => "lookup tcp/" ++ port ++ ": unknown port"
  | .invalidPort port => "address " ++ port ++ ": invalid port"

namespace Address

/-- What stands in front of the last occurrence of a character, and what stands behind it. -/
def splitLast? (c : Char) (cs : List Char) : Option (List Char × List Char) :=
  let back := cs.reverse
  match back.dropWhile (· ≠ c) with
  | [] => none
  | _ :: front => some (front.reverse, (back.takeWhile (· ≠ c)).reverse)

/-- The port of an address. -/
def port (address : List Char) : Except AddressError (List Char) := do
  let some (host, port) := splitLast? ':' address | throw .missingPort
  let inner ← match host with
    | '[' :: cs => do
      unless address.contains ']' do throw .missingBracket
      match cs.dropWhile (· ≠ ']') with
      | [']'] => pure cs
      | _ :: ':' :: _ => throw .tooManyColons
      | _ => throw .missingPort
    | cs => if cs.contains ':' then throw .tooManyColons else pure cs
  let bracketed := host.head? = some '['
  if inner.contains '[' || port.contains '[' then throw .unexpectedOpening
  if (!bracketed && inner.contains ']') || port.contains ']' then throw .unexpectedClosing
  return port

/-- Names of ports that are known everywhere. -/
def services : List String :=
  ["domain", "ftp", "ftps", "gopher", "http", "https", "imap2", "imap3", "imaps", "pop3", "pop3s",
    "smtp", "submissions", "ssh", "telnet"]

/-- The number of a port that is written as one. -/
def portNumber? (cs : List Char) : Option Int :=
  let (negative, ds) := match cs with
    | '-' :: ds => (true, ds)
    | '+' :: ds => (false, ds)
    | ds => (false, ds)
  if ds.all fun c => '0' ≤ c && c ≤ '9' then
    let n : Nat := ds.foldl (fun n c => n * 10 + (c.toNat - 48)) 0
    some (if negative then -(n : Int) else n)
  else none

/-- Why nothing can listen on an address, if that shows from its form. -/
def error? (address : String) : Option AddressError :=
  if address = "" then none
  else
    match port address.toList with
    | .error e => some e
    | .ok cs =>
      let p := String.ofList cs
      match portNumber? cs with
      | some n => if 0 ≤ n && n ≤ 65535 then none else some (.invalidPort p)
      | none => if services.contains (Text.lower p) then none else some (.unknownPort p)

/-- The fault of listening on an address. -/
def fault? (address : String) : Option Fault :=
  (error? address).map fun e => ⟨"listen tcp: " ++ e.message address, []⟩

end Address
end Courier.Http
