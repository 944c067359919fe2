import Courier.Text.Order

/-!
Association lists by text, kept in strictly increasing key order. A list built by `insert` from the
empty one holds every key once, so it is a finite map with a canonical form.
-/

namespace Courier

/-- Entries in strictly increasing key order. -/
abbrev Keyed (α : Type) := List (String × α)

namespace Keyed

variable {α β : Type}

/-- The value under a key. -/
def get? : Keyed α → String → Option α
  | [], _ => none
  | (k, a) :: m, key => if k = key then some a else get? m key

/-- Sets the value under a key, in its place. -/
def insert (key : String) (value : α) : Keyed α → Keyed α
  | [] => [(key, value)]
  | (k, a) :: m =>
    if key = k then (key, value) :: m
    else if Text.before key k then (key, value) :: (k, a) :: m
    else (k, a) :: insert key value m

/-- Removes a key. -/
def erase (key : String) : Keyed α → Keyed α
  | [] => []
  | (k, a) :: m => if k = key then erase key m else (k, a) :: erase key m

/-- The map of a list of entries; of several under one key the last one stays. -/
def ofList (entries : List (String × α)) : Keyed α :=
  entries.foldl (fun m e => insert e.1 e.2 m) []

def keys (m : Keyed α) : List String := m.map Prod.fst

def contains (m : Keyed α) (key : String) : Bool := (get? m key).isSome

/-- The entries of `m` set over those of `base`. -/
def overlay (base m : Keyed α) : Keyed α :=
  m.foldl (fun acc e => insert e.1 e.2 acc) base

end Keyed
end Courier
