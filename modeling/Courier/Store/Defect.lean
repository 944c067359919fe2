import Courier.Store.Basic

/-!
Stores with one defect, against which the checks on stores can themselves be checked.
-/

namespace Courier

/-- One thing a store does wrong. -/
inductive StoreDefect
  | forgets | dropsFailure | dropsSteps | failsSave | failsDelete | failsList | blankLoad | otherError
  | keeps | emptyList
  deriving DecidableEq

namespace StoreDefect

def ofName? : String → Option StoreDefect
  | "forgets" => some forgets
  | "drops_failure" => some dropsFailure
  | "drops_steps" => some dropsSteps
  | "fails_save" => some failsSave
  | "fails_delete" => some failsDelete
  | "fails_list" => some failsList
  | "blank_load" => some blankLoad
  | "other_error" => some otherError
  | "keeps" => some keeps
  | "empty_list" => some emptyList
  | _ => none

/-- A store with a defect; calls that fail do so with the given fault. -/
def apply {σ : Type} (fault : Fault) (store : ResultStore σ) : StoreDefect → ResultStore σ
  | .forgets => { store with save := fun _ s => (s, none) }
  | .dropsFailure => { store with save := fun r => store.save { r with failure := none } }
  | .dropsSteps => { store with save := fun r => store.save { r with steps := 0 } }
  | .failsSave => { store with save := fun _ s => (s, some fault) }
  | .failsDelete => { store with delete := fun _ s => (s, some fault) }
  | .failsList => { store with list := fun s => (s, .error fault) }
  | .blankLoad =>
    { store with load := fun id s =>
        let (s, r) := store.load id s
        (s, .ok (r.toOption.getD Result.blank)) }
  | .otherError =>
    { store with load := fun id s =>
        let (s, r) := store.load id s
        (s, r.mapError fun _ => ⟨"gone", []⟩) }
  | .keeps => { store with delete := fun _ s => (s, none) }
  | .emptyList => { store with list := fun s => (s, .ok []) }

end StoreDefect
end Courier
