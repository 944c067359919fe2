import Courier.Proofs.Result.Carried
import Courier.Store.Memory

/-! What every store does with the results it takes: it keeps the last one under each message id until it
is deleted. A store may give back a result in another form than it was saved in; apart from that, its
answers to any sequence of calls are those of the store in memory. -/
namespace Courier

/-- A call on a store. -/
inductive StoreCall
  | save (r : Result)
  | load (id : String)
  | delete (id : String)
  | list

/-- What a call answers: of saving and deleting, the fault if there is one. -/
inductive StoreAnswer
  | ended (fault : Option Fault)
  | loaded (r : Except Fault Result)
  | listed (ids : Except Fault (List String))

namespace ResultStore

variable {σ : Type}

def call (store : ResultStore σ) : StoreCall → σ → σ × StoreAnswer
  | .save r, s => let (s, f) := store.save r s; (s, .ended f)
  | .load id, s => let (s, r) := store.load id s; (s, .loaded r)
  | .delete id, s => let (s, f) := store.delete id s; (s, .ended f)
  | .list, s => let (s, ids) := store.list s; (s, .listed ids)

/-- The answers to calls made one after the other. Each comes with what happens to the state before it. -/
def answers (store : ResultStore σ) : List ((σ → σ) × StoreCall) → σ → List StoreAnswer
  | [], _ => []
  | (meanwhile, c) :: calls, s =>
    let (s, a) := store.call c (meanwhile s)
    a :: store.answers calls s

/-- A store whose states stand for maps from message ids to results: what it accepts is in the map from
then on, what it refuses is not, and what it loads is shown for what is in the map. -/
structure Keeps (store : ResultStore σ) (Holds : MemoryStore → σ → Prop) (Accepts : Result → Prop)
    (Shows : Result → Result → Prop) : Prop where
  save : ∀ {m s}, Holds m s → ∀ {r : Result}, r.Valid → Accepts r →
    (store.save r s).2 = none ∧ Holds (Keyed.insert r.messageId r m) (store.save r s).1
  refuse : ∀ {m s}, Holds m s → ∀ {r}, ¬ Accepts r →
    (∃ f, (store.save r s).2 = some f) ∧ Holds m (store.save r s).1
  load : ∀ {m s}, Holds m s → ∀ id, Holds m (store.load id s).1
  found : ∀ {m s}, Holds m s → ∀ {id r}, Keyed.get? m id = some r →
    ∃ r', (store.load id s).2 = .ok r' ∧ Shows r r'
  missing : ∀ {m s}, Holds m s → ∀ {id}, Keyed.get? m id = none →
    (store.load id s).2 = .error resultNotFound
  delete : ∀ {m s}, Holds m s → ∀ id,
    (store.delete id s).2 = none ∧ Holds (Keyed.erase id m) (store.delete id s).1
  list : ∀ {m s}, Holds m s →
    (store.list s).2 = .ok (Keyed.keys m) ∧ Holds m (store.list s).1

end ResultStore

/-- The answers of two stores that agree: no fault on saving and deleting, the same lists, no result on
either side, or one on both sides, as the second store shows it. -/
inductive StoreAnswer.Agree (Shows : Result → Result → Prop) : StoreAnswer → StoreAnswer → Prop
  | ended : Agree Shows (.ended none) (.ended none)
  | found {r r' : Result} (h : Shows r r') : Agree Shows (.loaded (.ok r)) (.loaded (.ok r'))
  | missing : Agree Shows (.loaded (.error resultNotFound)) (.loaded (.error resultNotFound))
  | listed (ids : List String) : Agree Shows (.listed (.ok ids)) (.listed (.ok ids))

/-- A call that saves nothing but what is accepted. -/
def StoreCall.Accepted (Accepts : Result → Prop) : StoreCall → Prop
  | .save r => r.Valid ∧ Accepts r
  | _ => True

namespace MemoryStore

theorem keeps : store.Keeps Eq (fun _ => True) Eq where
  save := by
    rintro m _ rfl r - -
    exact ⟨rfl, rfl⟩
  refuse := fun _ _ hr => absurd trivial hr
  load := fun h _ => h
  found := by
    rintro m _ rfl id r hr
    exact ⟨r, by simp only [store, hr], rfl⟩
  missing := by
    rintro m _ rfl id hid
    simp only [store, hid]
  delete := by
    rintro m _ rfl id
    exact ⟨rfl, rfl⟩
  list := by
    rintro m _ rfl
    exact ⟨rfl, rfl⟩

end MemoryStore

namespace ResultStore.Keeps

variable {σ : Type} {store : ResultStore σ} {Holds : MemoryStore → σ → Prop} {Accepts : Result → Prop}
  {Shows : Result → Result → Prop}

/-- A store on a part of a state keeps what it keeps on the part alone. -/
theorem focus (h : store.Keeps Holds Accepts Shows) {τ : Type} {get : τ → σ} {put : σ → τ → τ}
    (hput : ∀ s t, get (put s t) = s) :
    (store.focus get put).Keeps (fun m t => Holds m (get t)) Accepts Shows where
  save := fun hm _ hr haccepts => by
    obtain ⟨hfault, hholds⟩ := h.save hm hr haccepts
    exact ⟨hfault, (hput _ _).symm ▸ hholds⟩
  refuse := fun hm _ hr => by
    obtain ⟨hfault, hholds⟩ := h.refuse hm hr
    exact ⟨hfault, (hput _ _).symm ▸ hholds⟩
  load := fun hm id => (hput _ _).symm ▸ h.load hm id
  found := fun hm _ _ hid => h.found hm hid
  missing := fun hm _ hid => h.missing hm hid
  delete := fun hm id => by
    obtain ⟨hfault, hholds⟩ := h.delete hm id
    exact ⟨hfault, (hput _ _).symm ▸ hholds⟩
  list := fun hm => by
    obtain ⟨hids, hholds⟩ := h.list hm
    exact ⟨hids, (hput _ _).symm ▸ hholds⟩

/-- One call: the answer agrees with that of the store in memory, and so do the states behind it. -/
theorem call (h : store.Keeps Holds Accepts Shows) {m : MemoryStore} {s : σ} (hs : Holds m s)
    {c : StoreCall} (hc : c.Accepted Accepts) :
    StoreAnswer.Agree Shows (MemoryStore.store.call c m).2 (store.call c s).2 ∧
      Holds (MemoryStore.store.call c m).1 (store.call c s).1 := by
  cases c with
  | save r =>
    obtain ⟨hfault, hholds⟩ := h.save hs hc.1 hc.2
    refine ⟨?_, hholds⟩
    change StoreAnswer.Agree Shows (.ended none) (.ended (store.save r s).2)
    rw [hfault]
    exact .ended
  | load id =>
    refine ⟨?_, h.load hs id⟩
    change StoreAnswer.Agree Shows (.loaded (MemoryStore.store.load id m).2)
      (.loaded (store.load id s).2)
    cases hid : Keyed.get? m id with
    | none =>
      have hmemory : (MemoryStore.store.load id m).2 = .error resultNotFound := by
        simp only [MemoryStore.store, hid]
      rw [hmemory, h.missing hs hid]
      exact .missing
    | some r =>
      have hmemory : (MemoryStore.store.load id m).2 = .ok r := by
        simp only [MemoryStore.store, hid]
      obtain ⟨r', hr', hshows⟩ := h.found hs hid
      rw [hmemory, hr']
      exact .found hshows
  | delete id =>
    obtain ⟨hfault, hholds⟩ := h.delete hs id
    refine ⟨?_, hholds⟩
    change StoreAnswer.Agree Shows (.ended none) (.ended (store.delete id s).2)
    rw [hfault]
    exact .ended
  | list =>
    obtain ⟨hids, hholds⟩ := h.list hs
    refine ⟨?_, hholds⟩
    change StoreAnswer.Agree Shows (.listed (.ok (Keyed.keys m))) (.listed (store.list s).2)
    rw [hids]
    exact .listed _

/-- All calls of a sequence, when what happens in between leaves what the store holds. -/
theorem answers (h : store.Keeps Holds Accepts Shows) {calls : List ((σ → σ) × StoreCall)}
    (hcalls : ∀ c ∈ calls, (∀ m s, Holds m s → Holds m (c.1 s)) ∧ c.2.Accepted Accepts)
    {m : MemoryStore} {s : σ} (hs : Holds m s) :
    List.Forall₂ (StoreAnswer.Agree Shows)
      (MemoryStore.store.answers (calls.map fun c => (id, c.2)) m) (store.answers calls s) := by
  induction calls generalizing m s with
  | nil => exact .nil
  | cons c calls ih =>
    obtain ⟨⟨hmeanwhile, hc⟩, hrest⟩ := List.forall_mem_cons.mp hcalls
    obtain ⟨hanswer, hholds⟩ := h.call (hmeanwhile m s hs) hc
    exact .cons hanswer (ih hrest hholds)

end ResultStore.Keeps
end Courier
