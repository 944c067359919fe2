import Courier.Pattern.Reader
import Courier.Store.Basic
import Courier.Text.Quoted

/-!
Masking personal data: before a result is kept, the value under every key that matches a pattern is
replaced, in records and lists of any depth. The caller's result stays as it is.
-/

namespace Courier

/-- The first pattern that cannot be read. -/
structure Pattern.ListError where
  pattern : String
  error : Pattern.Error
  deriving DecidableEq

def Pattern.ListError.fault (e : Pattern.ListError) : Fault :=
  ⟨"invalid pii pattern " ++ Text.quote e.pattern ++ ": error parsing regexp: " ++ e.error.text ++
    ": " ++ e.pattern, []⟩

/-- Reads patterns in turn. -/
def Pattern.parseAll : List String → Except Pattern.ListError (List Pattern)
  | [] => .ok []
  | s :: ss =>
    match Pattern.parse s with
    | .error e => .error ⟨s, e⟩
    | .ok p => (parseAll ss).map (p :: ·)

namespace Masking

/-- What stands in place of a masked value. -/
def mask : Value := .text "***"

mutual
/-- Masks inside a value; tables are not looked into. -/
def maskValue (hit : String → Bool) : Value → Value
  | .record fs => .record (maskFields hit fs)
  | .list vs => .list (maskItems hit vs)
  | v => v
def maskFields (hit : String → Bool) : List (String × Value) → List (String × Value)
  | [] => []
  | (k, v) :: fs => (k, if hit k then mask else maskValue hit v) :: maskFields hit fs
def maskItems (hit : String → Bool) : List Value → List Value
  | [] => []
  | v :: vs => maskValue hit v :: maskItems hit vs
end

def maskResult (hit : String → Bool) (r : Result) : Result :=
  { r with bindings := r.bindings.map (maskFields hit), value := maskValue hit r.value }

/-- Masks results on their way into a store. -/
def layer {σ : Type} (hit : String → Bool) (next : ResultStore σ) : ResultStore σ :=
  { next with save := fun r s => next.save (maskResult hit r) s }

/-- Whether one of some patterns matches a key. -/
def matchesAny (ps : List Pattern) (key : String) : Bool := ps.any fun p => p.occursIn key

end Masking
end Courier
