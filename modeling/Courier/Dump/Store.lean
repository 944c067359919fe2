import Courier.Dump.Fault
import Courier.Dump.Result
import Courier.Service.Rejection
import Courier.Store.Layers

/-!
Dumps of kept results, and stores and their layers as they are described in JSON.
-/

namespace Courier

open Json (textPair)

namespace Result

/-- A dumped result with its JSON text, and with its times if asked. -/
def dumpWithText (timed : Bool) (r : Result) : Json :=
  .object (r.dump ++
    (match r.encode with
      | .ok t => [textPair "json" t]
      | .error e => [textPair "json_error" (Stable.message e.message)]) ++
    if timed then
      [textPair "completed_at" r.completedAt.text, textPair "duration" (toString r.duration)]
    else [])

/-- A result as it lies in a store, with what is sealed cut to its length. -/
def withoutSeal (r : Result) : Result :=
  match Keyed.get? (r.bindings.getD []) Sealing.envelopeKey with
  | some (.text t) =>
    match Base64.decode? t with
    | some bs =>
      let shown := "<ciphertext " ++ toString bs.length ++ " bytes>"
      { r with bindings := some [(Sealing.envelopeKey, .text shown)] }
    | none => r
  | _ => r

end Result

namespace StoreLayer

/-- A described layer; a bad pattern or key stops the construction. -/
def ofDump (j : Json) : Except Json StoreLayer :=
  if (j.member? "pii").isSome then
    match Pattern.parseAll ((j.listAt "pii").map Json.asText) with
    | .ok ps => .ok (.masked ps)
    | .error e => .error (Panic.raised e.fault.message).dump
  else
    let key (k : Json) : List UInt8 := (Base64.decode? k.asText).getD []
    let active := key (j.get "key")
    if active.length ≠ 32 then
      .error (Panic.raised "active key must be 32 bytes (AES-256)").dump
    else .ok (.sealed ⟨active, (j.listAt "fallback").map key⟩)

def listOfDump (j : Json) : Except Json (List StoreLayer) :=
  (j.listAt "middleware").mapM ofDump

end StoreLayer

/-- The members that tell of a rejection, if there is one. -/
def Rejection.dump? : Option Rejection → List (String × Json)
  | some r => [("err", r.fault.dumpAs "RejectionError" []), textPair "reason" r.reason.name]
  | none => []

end Courier
