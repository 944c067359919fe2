import Courier.Cipher.Gcm
import Courier.Result.Json
import Courier.Store.Basic
import Courier.Text.Base64
import Courier.Text.Utf8

/-!
Sealing results: before a result is kept, it is encrypted as a whole into an envelope that shows only
whose result it is, its status and its times. Reading tries the active key and then older ones, so that
keys can be changed. A result that was kept without an envelope is refused.
-/

namespace Courier

/-- Encryption under a key: how a text is sealed with a nonce, and how it is opened again. -/
structure Cipher where
  encrypt : (key nonce text : List UInt8) → List UInt8
  decrypt? : (key sealed : List UInt8) → Option (List UInt8)

namespace Cipher

/-- AES in Galois counter mode. -/
def aesGcm : Cipher where
  encrypt key nonce text := Gcm.encrypt (Aes.encryptWith (Aes.roundKeys key)) nonce text
  decrypt? key sealed :=
    if Aes.acceptsKey key then Gcm.decrypt? (Aes.encryptWith (Aes.roundKeys key)) sealed else none

end Cipher

namespace Sealing

/-- The keys of a store: the one that seals, and those that only open. -/
structure Keys where
  active : List UInt8
  fallback : List (List UInt8)

/-- Why a text is no key. -/
inductive KeyError
  | encoding
  | size (bytes : Nat)
  deriving DecidableEq

def KeyError.message : KeyError → String
  | .encoding => "invalid base64 key: illegal base64 data"
  | .size n => "key must be 32 bytes (AES-256), got " ++ toString n

/-- Reads a key of 32 bytes in base 64. -/
def decodeKey (s : String) : Except KeyError (List UInt8) :=
  match Base64.decode? s with
  | none => .error .encoding
  | some key => if key.length = 32 then .ok key else .error (.size key.length)

/-- The binding that holds the sealed result. -/
def envelopeKey : String := "__encrypted__"

/-- What is kept in the clear, around a sealed text. -/
def envelope (r : Result) (sealed : String) : Result :=
  { Result.blank with
    messageId := r.messageId
    program := r.program
    status := r.status
    steps := r.steps
    completedAt := r.completedAt
    duration := r.duration
    bindings := some [(envelopeKey, .text sealed)] }

/-- Seals a result under a nonce. -/
def sealResult (c : Cipher) (key nonce : List UInt8) (r : Result) : Except Json.EncodeError Result :=
  r.encode.map fun t => envelope r (Base64.encode (c.encrypt key nonce (Text.utf8Bytes t)))

/-- The first opening that succeeds, trying keys in their order. -/
def openWith (c : Cipher) (sealed : List UInt8) : List (List UInt8) → Option (List UInt8)
  | [] => none
  | k :: ks =>
    match c.decrypt? k sealed with
    | some t => some t
    | none => openWith c sealed ks

/-- Why an envelope cannot be opened. -/
inductive OpenError
  | noEnvelope
  | encoding
  | keys
  | document
  deriving DecidableEq

def OpenError.message : OpenError → String
  | .noEnvelope => "result is missing encrypted data envelope"
  | .encoding => "failed to decode ciphertext base64: illegal base64 data"
  | .keys => "failed to decrypt result: decryption failed with all available keys"
  | .document => "failed to unmarshal decrypted result: not a result"

/-- The result inside an envelope. -/
def openResult (c : Cipher) (keys : Keys) (r : Result) : Except OpenError Result :=
  match Keyed.get? (r.bindings.getD []) envelopeKey with
  | some (.text encoded) =>
    match Base64.decode? encoded with
    | none => .error .encoding
    | some sealed =>
      match openWith c sealed (keys.active :: keys.fallback) with
      | none => .error .keys
      | some text =>
        match Result.decode? (Text.ofUtf8 text) with
        | none => .error .document
        | some r => .ok r
  | _ => .error .noEnvelope

/-- Seals results on their way into a store and opens them on their way out. Nonces are drawn from the
state. -/
def layer {σ : Type} (c : Cipher) (nonce : σ → List UInt8 × σ) (keys : Keys) (next : ResultStore σ) :
    ResultStore σ :=
  { next with
    save := fun r s =>
      let (n, t) := nonce s
      match sealResult c keys.active n r with
      | .error e => (s, some ⟨"failed to marshal result: " ++ e.message, []⟩)
      | .ok r => next.save r t
    load := fun id s =>
      match next.load id s with
      | (s, .error f) => (s, .error f)
      | (s, .ok r) => (s, (openResult c keys r).mapError fun e => ⟨e.message, []⟩) }

end Sealing
end Courier
