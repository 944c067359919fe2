import Courier.Cipher.Aes

/-!
Authenticated encryption in Galois counter mode, over any block cipher. A sealed text is a nonce of
twelve bytes, the text combined with a key stream, and a tag of sixteen bytes over it.
-/

namespace Courier.Gcm

abbrev Bytes := List UInt8

/-- A block cipher under one key. -/
abbrev BlockCipher := Bytes → Bytes

/-- The bytes of a number, highest first. -/
def toBytes : Nat → Nat → Bytes
  | 0, _ => []
  | len + 1, n => toBytes len (n / 256) ++ [UInt8.ofNat n]

/-- The number of some bytes, highest first. -/
def toNat (bs : Bytes) : Nat := bs.foldl (fun n b => n * 256 + b.toNat) 0

/-- The block number `n` of the key stream of a nonce. -/
def streamBlock (e : BlockCipher) (nonce : Bytes) (n : Nat) : Bytes := e (nonce ++ toBytes 4 n)

/-- Combines a text with the key stream from block `n` on. -/
def combine (e : BlockCipher) (nonce : Bytes) : Nat → Nat → Bytes → Bytes
  | 0, _, _ => []
  | fuel + 1, n, text =>
    if text.isEmpty then []
    else
      List.zipWith (· ^^^ ·) (text.take 16) (streamBlock e nonce n) ++
        combine e nonce fuel (n + 1) (text.drop 16)

/-- The text combined with the key stream; doing it twice gives the text back. -/
def cover (e : BlockCipher) (nonce text : Bytes) : Bytes :=
  combine e nonce (text.length + 1) 2 text

/-- The polynomial the field of blocks is taken modulo, without its leading term. -/
def reduction : Nat := 0xe1 * Nat.pow 2 120

/-- Adds the multiples of `v` that the highest `bits` bits of `x` ask for. -/
def multiplyBits (x : Nat) : Nat → Nat → Nat → Nat
  | 0, _, z => z
  | bits + 1, v, z =>
    let z := if x.testBit bits then z ^^^ v else z
    let v := if v % 2 = 1 then (v / 2) ^^^ reduction else v / 2
    multiplyBits x bits v z

/-- The product of two blocks in their field. -/
def multiply (x y : Nat) : Nat := multiplyBits x 128 y 0

/-- The blocks of a text, the last one filled up with zeros. -/
def blocks : Nat → Bytes → List Nat
  | 0, _ => []
  | fuel + 1, text =>
    if text.isEmpty then []
    else
      let b := text.take 16
      toNat (b ++ List.replicate (16 - b.length) 0) :: blocks fuel (text.drop 16)

/-- The hash of a covered text under a hash key. -/
def hash (h : Nat) (text : Bytes) : Nat :=
  (blocks (text.length + 1) text ++ [8 * text.length]).foldl (fun y b => multiply (y ^^^ b) h) 0

/-- The tag of a covered text. -/
def tag (e : BlockCipher) (nonce text : Bytes) : Bytes :=
  let h := toNat (e (List.replicate 16 0))
  List.zipWith (· ^^^ ·) (toBytes 16 (hash h text)) (streamBlock e nonce 1)

/-- Seals a text under a nonce. -/
def encrypt (e : BlockCipher) (nonce text : Bytes) : Bytes :=
  let covered := cover e nonce text
  nonce ++ covered ++ tag e nonce covered

/-- Opens a sealed text; none unless its tag is right. -/
def decrypt? (e : BlockCipher) (sealed : Bytes) : Option Bytes :=
  if sealed.length < 28 then none
  else
    let nonce := sealed.take 12
    let covered := (sealed.drop 12).take (sealed.length - 28)
    if sealed.drop (sealed.length - 16) = tag e nonce covered then some (cover e nonce covered)
    else none

end Courier.Gcm
