import Courier.Store.Basic
import Courier.Value.Compare

/-!
What every result store must do, as checks that can be run against one. A check that fails at a step it
depends on ends there; what it saved is deleted in any case.
-/

namespace Courier.Contract

variable {σ : Type}

/-- A check: the state it leaves, and whether it passed. -/
abbrev Check (σ : Type) := ResultStore σ → σ → σ × Bool

def sample (id : String) : Result :=
  { Result.blank with
    messageId := id, program := "contract", status := .success, value := .text "done",
    bindings := some [("x", .text "5")], steps := 2 }

def failed (id : String) : Result :=
  { Result.blank with
    messageId := id, status := .failure, failure := some ⟨.dispatch, 3, "", "", "boom"⟩ }

def bare (id : String) (status : Status) : Result := { Result.blank with messageId := id, status }

/-- Whether loading a result fails because there is none. -/
def absent (store : ResultStore σ) (id : String) (s : σ) : σ × Bool :=
  match store.load id s with
  | (s, .ok _) => (s, false)
  | (s, .error f) => (s, f.marks.contains .resultNotFound)

/-- A saved result can be loaded. -/
def saveAndLoad (id : String) : Check σ := fun store s =>
  match store.save (sample id) s with
  | (s, some _) => (s, false)
  | (s, none) =>
    match store.load id s with
    | (s, .error _) => (s, false)
    | (s, .ok r) =>
      (s, r.messageId = id && r.status = .success && r.value.same (.text "done") &&
        ((Keyed.get? (r.bindings.getD []) "x").any fun v => v.same (.text "5")) && r.steps = 2)

/-- A failure is kept with its result. -/
def failureSurvives (id : String) : Check σ := fun store s =>
  match store.save (failed id) s with
  | (s, some _) => (s, false)
  | (s, none) =>
    let (s, passed) := match store.load id s with
      | (s, .error _) => (s, false)
      | (s, .ok r) =>
        (s, match r.failure with
          | some f => decide (f.kind = .dispatch) && f.nodeId = 3
          | none => false)
    ((store.delete id s).1, passed)

/-- What was never saved cannot be loaded. -/
def loadAbsent (id : String) : Check σ := fun store s => absent store id s

/-- What was deleted cannot be loaded. -/
def deletes (id : String) : Check σ := fun store s =>
  match store.save (bare id .success) s with
  | (s, some _) => (s, false)
  | (s, none) =>
    match store.delete id s with
    | (s, some _) => (s, false)
    | (s, none) => absent store id s

/-- What was saved is listed. -/
def lists (first second : String) : Check σ := fun store s =>
  match store.save (bare first (.other "")) s with
  | (s, some _) => (s, false)
  | (s, none) =>
    match store.save (bare second (.other "")) s with
    | (s, some _) => (s, false)
    | (s, none) =>
      let (s, passed) := match store.list s with
        | (s, .error _) => (s, false)
        | (s, .ok ids) => (s, ids.contains first && ids.contains second)
      ((store.delete second (store.delete first s).1).1, passed)

/-- The checks by name, in the order they are run, for some message id. -/
def checks (id : String) : List (String × Check σ) :=
  [("Save and Load", saveAndLoad id),
    ("Failure survives", failureSurvives (id ++ "-failed")),
    ("Load Non-Existent", loadAbsent ("non-existent-" ++ id)),
    ("Delete", deletes id),
    ("List", lists (id ++ "-1") (id ++ "-2"))]

/-- Runs checks in turn: the names of those that fail. -/
def runChecks (store : ResultStore σ) : List (String × Check σ) → σ → List String
  | [], _ => []
  | (name, check) :: rest, s =>
    let (s, passed) := check store s
    if passed then runChecks store rest s else name :: runChecks store rest s

/-- The names of the checks a store fails. -/
def failures (store : ResultStore σ) (id : String) (s : σ) : List String :=
  runChecks store (checks id) s

end Courier.Contract
