import Courier.Text.Utf8

/-!
The edit distance of two texts: how many bytes have to be put in, taken out or changed to turn one
into the other.
-/

namespace Courier.Text

def lesser (a b : Nat) : Nat := if a ≤ b then a else b

/-- The cells of a row behind its first one. The row before is given from the cell above the last
known one on. -/
def distanceCells (x : UInt8) (left : Nat) : List UInt8 → List Nat → List Nat
  | y :: ys, corner :: above :: row =>
    let cell := if x = y then corner else lesser (lesser left above) corner + 1
    cell :: distanceCells x cell ys (above :: row)
  | _, _ => []

/-- The row of distances from a start with one more byte to every start of the other text. -/
def distanceRow (x : UInt8) (ys : List UInt8) : List Nat → List Nat
  | [] => []
  | corner :: row => (corner + 1) :: distanceCells x (corner + 1) ys (corner :: row)

def distance (a b : String) : Nat :=
  let ys := utf8Bytes b
  ((utf8Bytes a).foldl (fun row x => distanceRow x ys row) (List.range (ys.length + 1))).getLastD 0

example : distance "kitten" "sitting" = 3 := by decide +kernel

end Courier.Text
