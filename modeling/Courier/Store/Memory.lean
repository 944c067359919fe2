import Courier.Store.Basic

/-!
The store that keeps results in memory.
-/

namespace Courier

/-- Results by message id. -/
abbrev MemoryStore := Keyed Result

namespace MemoryStore

def store : ResultStore MemoryStore where
  save r s := (Keyed.insert r.messageId r s, none)
  load id s :=
    (s, match Keyed.get? s id with
      | some r => .ok r
      | none => .error resultNotFound)
  delete id s := (Keyed.erase id s, none)
  list s := (s, .ok (Keyed.keys s))

end MemoryStore
end Courier
