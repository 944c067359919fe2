import Courier.Json.Reader
import Courier.Text.Quoted
import Courier.Text.Utf8

/-!
Percent coding of bytes in request targets.
-/

namespace Courier.Percent

/-- Bytes that stand for themselves in a path. -/
def isPlain (b : UInt8) : Bool :=
  let n := b.toNat
  (0x30 ≤ n && n ≤ 0x39) || (0x41 ≤ n && n ≤ 0x5a) || (0x61 ≤ n && n ≤ 0x7a) ||
    [0x2d, 0x5f, 0x2e, 0x7e, 0x24, 0x26, 0x2b, 0x2c, 0x2f, 0x3a, 0x3b, 0x3d, 0x40].contains n

def upperHex (n : Nat) : Char := (Text.hexDigits 1 n).map Char.toUpper |>.headD '0'

/-- The usual form of a path: every byte that does not stand for itself is escaped. -/
def encodePath (bs : List UInt8) : List Char :=
  bs.flatMap fun b =>
    if isPlain b then [Char.ofNat b.toNat]
    else ['%', upperHex (b.toNat / 16), upperHex (b.toNat % 16)]

/-- The bytes behind escapes; none when a percent sign starts no escape. -/
def decode? : List Char → Option (List UInt8)
  | [] => some []
  | '%' :: a :: b :: rest =>
    match Json.hexValue a, Json.hexValue b with
    | some x, some y => (decode? rest).map (UInt8.ofNat (x * 16 + y) :: ·)
    | _, _ => none
  | '%' :: _ => none
  | c :: rest => (decode? rest).map (Text.utf8Bytes (String.ofList [c]) ++ ·)

/-- The same in a query, where a plus sign is a blank. -/
def decodeQuery? (cs : List Char) : Option (List UInt8) :=
  decode? (cs.map fun c => if c = '+' then ' ' else c)

end Courier.Percent
