/-!
UTF-8 bytes and text. A byte that belongs to no character reads as the replacement character.
-/

namespace Courier.Text

/-- The bytes of a text. -/
def utf8Bytes (s : String) : List UInt8 := s.toUTF8.data.toList

/-- Whether a byte continues a character. -/
def isContinuation (b : UInt8) : Bool := 0x80 ≤ b.toNat && b.toNat < 0xc0

/-- The character at the front of some bytes and its length in bytes, if there is a valid one. -/
def utf8Char? : List UInt8 → Option (Char × Nat)
  | [] => none
  | a :: rest =>
    let n := a.toNat
    if n < 0x80 then some (Char.ofNat n, 1)
    else
      match rest with
      | b :: rest =>
        let two := (n % 32) * 64 + b.toNat % 64
        if 0xc2 ≤ n ∧ n < 0xe0 ∧ isContinuation b then some (Char.ofNat two, 2)
        else
          match rest with
          | c :: rest =>
            let three := ((n % 16) * 64 + b.toNat % 64) * 64 + c.toNat % 64
            if 0xe0 ≤ n ∧ n < 0xf0 ∧ isContinuation b ∧ isContinuation c ∧ 0x800 ≤ three ∧
                (three < 0xd800 ∨ 0xdfff < three) then
              some (Char.ofNat three, 3)
            else
              match rest with
              | d :: _ =>
                let four := (((n % 8) * 64 + b.toNat % 64) * 64 + c.toNat % 64) * 64 + d.toNat % 64
                if 0xf0 ≤ n ∧ n < 0xf5 ∧ isContinuation b ∧ isContinuation c ∧ isContinuation d ∧
                    0x10000 ≤ four ∧ four < 0x110000 then
                  some (Char.ofNat four, 4)
                else none
              | [] => none
          | [] => none
      | [] => none

/-- The characters of some bytes; at most `fuel` of them, which their number bounds. -/
def utf8Chars : Nat → List UInt8 → List Char
  | 0, _ => []
  | _, [] => []
  | fuel + 1, bs =>
    match utf8Char? bs with
    | some (c, n) => c :: utf8Chars fuel (bs.drop n)
    | none => Char.ofNat 0xfffd :: utf8Chars fuel (bs.drop 1)

/-- The text of some bytes. -/
def ofUtf8 (bs : List UInt8) : String := String.ofList (utf8Chars bs.length bs)

end Courier.Text
