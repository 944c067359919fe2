/-!
The order of texts by code point, which is also the order of their UTF-8 bytes.
-/

namespace Courier.Text

def charsBefore : List Char → List Char → Bool
  | [], [] => false
  | [], _ :: _ => true
  | _ :: _, [] => false
  | a :: as, b :: bs =>
    if a = b then charsBefore as bs else a.toNat < b.toNat

/-- Strictly before, by the first character that differs. -/
def before (a b : String) : Bool := charsBefore a.toList b.toList

/-- Inserts a text before the first one that stands after it. -/
def insertSorted (s : String) : List String → List String
  | [] => [s]
  | t :: ts => if before s t then s :: t :: ts else t :: insertSorted s ts

/-- The texts in increasing order; equal ones keep their number. -/
def sort (ss : List String) : List String :=
  ss.foldr insertSorted []

end Courier.Text
