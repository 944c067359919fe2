import Courier.Number.Decimal
import Courier.Value.Basic

/-!
The display form of values: bare texts, lists in brackets, records and tables as `map[key:value]`.
-/

namespace Courier.Value

/-- Displayed numbers are positional from 1e-4 up to 1e6. -/
def displayLayout : Decimal.Layout := ⟨fun place => -4 ≤ place && place < 6, 2⟩

mutual
def display : Value → String
  | .null => "<nil>"
  | .bool b => if b then "true" else "false"
  | .text s => s
  | .int _ n => toString n
  | .float x => x.text .double displayLayout
  | .single x => x.text .single displayLayout
  | .bytes bs => "[" ++ String.intercalate " " (bs.map fun b => toString b.toNat) ++ "]"
  | .texts ss => "[" ++ String.intercalate " " ss ++ "]"
  | .list vs => "[" ++ String.intercalate " " (displayList vs) ++ "]"
  | .record fs => "map[" ++ String.intercalate " " (displayFields fs) ++ "]"
  | .table es => "map[" ++ String.intercalate " " (displayEntries es) ++ "]"
  | .time t => t.spacedText
def displayList : List Value → List String
  | [] => []
  | v :: vs => v.display :: displayList vs
def displayFields : List (String × Value) → List String
  | [] => []
  | (k, v) :: fs => (k ++ ":" ++ v.display) :: displayFields fs
def displayEntries : List (Value × Value) → List String
  | [] => []
  | (k, v) :: es => (k.display ++ ":" ++ v.display) :: displayEntries es
end

end Courier.Value
