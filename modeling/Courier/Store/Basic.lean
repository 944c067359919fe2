import Courier.Completion.Responder

/-!
Result stores. A store is a set of operations on a state of any type; layers in front of a store are
functions on such sets.
-/

namespace Courier

/-- Keeping results by message id. -/
structure ResultStore (σ : Type) where
  save : Result → σ → σ × Option Fault
  load : String → σ → σ × Except Fault Result
  delete : String → σ → σ × Option Fault
  list : σ → σ × Except Fault (List String)

/-- No result under a message id. -/
def resultNotFound : Fault := ⟨"result not found", [.resultNotFound]⟩

namespace ResultStore

variable {σ : Type}

/-- Delivers results to a store. -/
def responder (store : ResultStore σ) : Responder σ := fun r s =>
  match store.save r s with
  | (s, none) => (s, .done)
  | (s, some f) => (s, .failed (f.within ("failed to save result " ++ r.messageId ++ ": ")))

/-- A store in which every call fails. -/
def failing (f : Fault) : ResultStore σ where
  save _ s := (s, some f)
  load _ s := (s, .error f)
  delete _ s := (s, some f)
  list s := (s, .error f)

/-- A store on one part of a larger state. -/
def focus {τ : Type} (get : σ → τ) (put : τ → σ → σ) (store : ResultStore τ) : ResultStore σ where
  save r s := let (t, f) := store.save r (get s); (put t s, f)
  load id s := let (t, r) := store.load id (get s); (put t s, r)
  delete id s := let (t, f) := store.delete id (get s); (put t s, f)
  list s := let (t, r) := store.list (get s); (put t s, r)

end ResultStore
end Courier
