import Courier.Proofs.Pool.Operations
import Courier.Proofs.Registry
import Courier.Proofs.Service.Concurrent

/-! The life of a pool that several shut down, and the programs that messages are resolved to.
A pool that someone has shut down takes no more units, and stays empty once it is. -/
namespace Courier.Concurrent

variable {τ : Type} {a : Admission τ} {k : Conduct} {s s' : State τ}

/-- The time for some shutdown was over before it returned. -/
def Expired (zs : List Closing) : Prop := ∃ z ∈ zs, z.expired = true

/-- Some shutdown has returned. -/
def Returned (zs : List Closing) : Prop := ∃ z ∈ zs, z.returned = true

theorem exists_mem_set {α : Type} {P : α → Prop} {xs : List α} {j : Nat} {x y : α}
    (hx : xs[j]? = some x) (hP : P x → P y) (h : ∃ z ∈ xs, P z) : ∃ z ∈ xs.set j y, P z := by
  obtain ⟨z, hz, hPz⟩ := h
  obtain ⟨i, hi⟩ := List.mem_iff_getElem?.mp hz
  have hj : j < xs.length := (List.getElem?_eq_some_iff.mp hx).1
  by_cases hij : j = i
  · subst hij
    rw [hx] at hi
    exact ⟨y, List.mem_set hj y, hP (Option.some.inj hi ▸ hPz)⟩
  · refine ⟨z, List.mem_of_getElem? (i := i) ?_, hPz⟩
    rw [List.getElem?_set_ne hij]
    exact hi

theorem expired_set {zs : List Closing} {j : Nat} {z : Closing} (hz : zs[j]? = some z) (b : Bool)
    (h : Expired zs) : Expired (zs.set j { z with returned := b }) :=
  exists_mem_set hz id h

/-- A shutdown that runs out of time does not return by that. -/
theorem returned_of_set {zs : List Closing} {j : Nat} {z : Closing} (hopen : z.returned = false)
    (b : Bool) (h : Returned (zs.set j { z with expired := b })) : Returned zs := by
  obtain ⟨y, hy, hret⟩ := h
  rcases List.mem_or_eq_of_mem_set hy with hy | rfl
  · exact ⟨y, hy, hret⟩
  · rw [hopen] at hret
    cases hret

/-- What the pool and those who shut it down agree on at any time. -/
structure Orderly (p : Pool (Task τ)) (zs : List Closing) : Prop where
  closed : zs ≠ [] → p.state ≠ .active
  ended : p.state = .terminated → p.units = []
  canceled : p.canceled = true → Expired zs ∨ p.state = .terminated
  returned : Returned zs → p.units = []

namespace Orderly

variable {p q : Pool (Task τ)} {zs : List Closing} {t : Task τ}

/-- The pool after a step that leaves it as far in its life as it was. -/
theorem frame (h : Orderly p zs) (hstate : q.state = p.state) (hcanceled : q.canceled = p.canceled)
    (hunits : p.units = [] → q.units = []) : Orderly q zs where
  closed := hstate ▸ h.closed
  ended := fun hq => hunits (h.ended (hstate ▸ hq))
  canceled := hstate ▸ hcanceled ▸ h.canceled
  returned := fun hz => hunits (h.returned hz)

theorem submit (h : Orderly p zs) (hsubmit : p.submit (some t) = (q, none)) : Orderly q zs := by
  obtain ⟨hactive, n, rfl⟩ := Pool.submit_eq_none hsubmit
  -- A pool is active only while nobody has shut it down.
  have hnil : zs = [] := by
    by_contra hne
    exact h.closed hne hactive
  subst hnil
  constructor
  · intro hne
    exact absurd rfl hne
  · intro hended
    cases hactive.symm.trans hended
  · exact h.canceled
  · rintro ⟨z, hz, -⟩
    cases hz

/-- While a unit runs, no shutdown has returned. -/
theorem working (h : Orderly p zs) {j : Nat} (ht : p.running[j]? = some t)
    (hstate : q.state = p.state) (hcanceled : q.canceled = p.canceled) : Orderly q zs := by
  refine h.frame hstate hcanceled fun hempty => ?_
  -- A unit that runs is in the pool, so the pool was not empty.
  have hmem := Pool.mem_units_of_running ht
  rw [hempty] at hmem
  cases hmem

theorem close (h : Orderly p zs) : Orderly p.close (zs ++ [({} : Closing)]) := by
  -- Whoever shuts the pool down now has neither returned nor run out of time.
  have hreturned : Returned (zs ++ [({} : Closing)]) → Returned zs := by
    rintro ⟨z, hz, hret⟩
    rcases List.mem_append.mp hz with hz | hz
    · exact ⟨z, hz, hret⟩
    · rw [List.mem_singleton.mp hz] at hret
      cases hret
  have hexpired : Expired zs → Expired (zs ++ [({} : Closing)]) :=
    fun ⟨z, hz, he⟩ => ⟨z, List.mem_append_left _ hz, he⟩
  unfold Pool.close
  split_ifs with hactive
  · constructor
    · intro _ hstate
      cases hstate
    · intro hended
      cases hended
    · intro hcanceled
      rcases h.canceled hcanceled with he | hended
      · exact .inl (hexpired he)
      · cases hactive.symm.trans hended
    · exact fun hz => h.returned (hreturned hz)
  · exact ⟨fun _ => hactive, h.ended, fun hcanceled => (h.canceled hcanceled).imp_left hexpired,
      fun hz => h.returned (hreturned hz)⟩

theorem expire (h : Orderly p zs) {j : Nat} {z : Closing} (hz : zs[j]? = some z)
    (hopen : z.returned = false) : Orderly p.cancel (zs.set j { z with expired := true }) where
  closed := fun _ => h.closed (List.ne_nil_of_mem (List.mem_of_getElem? hz))
  ended := h.ended
  canceled := fun _ =>
    .inl ⟨_, List.mem_set (List.getElem?_eq_some_iff.mp hz).1 _, rfl⟩
  returned := fun hret => h.returned (returned_of_set hopen true hret)

theorem terminate (h : Orderly p zs) {j : Nat} {z : Closing} (hz : zs[j]? = some z)
    (hidle : p.isIdle = true) : Orderly p.terminate (zs.set j { z with returned := true }) := by
  have hempty : p.units = [] := Pool.isIdle_iff.mp hidle
  have hclosed := h.closed (List.ne_nil_of_mem (List.mem_of_getElem? hz))
  unfold Pool.terminate
  split_ifs
  · exact ⟨fun _ => by simp, fun _ => hempty, fun _ => .inr rfl, fun _ => hempty⟩
  · exact ⟨fun _ => hclosed, fun _ => hempty,
      fun hcanceled => (h.canceled hcanceled).imp_left (expired_set hz true), fun _ => hempty⟩

end Orderly

/-- Every step keeps the pool and those who shut it down in agreement. -/
theorem Step.orderly (h : Step a k s s') (hs : Orderly s.pool s.closings) :
    Orderly s'.pool s'.closings := by
  cases h with
  | arrive | resolve | unresolved | claim | unclaimed | release | accept | register
  | unregister | elapse => exact hs
  | submit _ _ hsubmit => exact hs.submit hsubmit
  | refuse _ _ hsubmit =>
    obtain ⟨n, rfl⟩ := Pool.submit_eq_some hsubmit
    exact hs.frame rfl rfl id
  | take htake =>
    have hunits := Pool.start?_units htake
    obtain ⟨rest, -, -, rfl⟩ := Pool.start?_eq_some htake
    exact hs.frame rfl rfl fun hempty => (hempty ▸ hunits).eq_nil
  | run ht | deliver ht | finish ht => exact hs.working ht rfl rfl
  | close => exact hs.close
  | expire hz hopen => exact hs.expire hz hopen
  | drained hz _ hidle => exact hs.terminate hz hidle

/-- A shutdown that has run out of time stays so. -/
theorem Step.expired (h : Step a k s s') (hs : Expired s.closings) : Expired s'.closings := by
  cases h with
  | close =>
    obtain ⟨z, hz, he⟩ := hs
    exact ⟨z, List.mem_append_left _ hz, he⟩
  | expire hz =>
    exact ⟨_, List.mem_set (List.getElem?_eq_some_iff.mp hz).1 _, rfl⟩
  | drained hz => exact expired_set hz true hs
  | _ => exact hs

/-- The program a message was resolved to, as long as that matters. -/
def Stage.program : Stage → Option Program
  | .resolved p => some p
  | .claimed p => some p
  | .queued p => some p
  | .accepted p => some p
  | _ => none

theorem getElem?_set_eq_some {α : Type} {xs : List α} {i j : Nat} {x y : α}
    (h : (xs.set j x)[i]? = some y) : (i = j ∧ y = x) ∨ xs[i]? = some y := by
  by_cases hij : j = i
  · subst hij
    have hj : j < (xs.set j x).length := (List.getElem?_eq_some_iff.mp h).1
    rw [List.length_set] at hj
    rw [List.getElem?_set_self hj] at h
    exact .inl ⟨rfl, (Option.some.inj h).symm⟩
  · rw [List.getElem?_set_ne hij] at h
    exact .inr h

/-- What is known of each call is known of it still when another call has come, of which nothing
is. -/
theorem bind_getElem?_concat {α β : Type} {f : α → Option β} (xs : List α) {x : α}
    (hx : f x = none) :
    (fun j : Nat => (xs ++ [x])[j]?.bind f) = fun j => xs[j]?.bind f := by
  funext j
  by_cases hj : j < xs.length
  · rw [List.getElem?_append_left hj]
  · rw [List.getElem?_append_right (by omega), List.getElem?_eq_none (l := xs) (by omega)]
    cases j - xs.length with
    | zero => exact hx
    | succ n => rfl

/-- A call that has come further is known for what it is now, and all others as before. -/
theorem bind_getElem?_set {α β : Type} (f : α → Option β) {xs : List α} {i : Nat} {x : α}
    (hx : xs[i]? = some x) (y : α) : (fun j : Nat => (xs.set i y)[j]?.bind f) =
      Function.update (fun j => xs[j]?.bind f) i (f y) := by
  have hi : i < xs.length := (List.getElem?_eq_some_iff.mp hx).1
  funext j
  by_cases hj : j = i
  · subst hj
    rw [Function.update_self, List.getElem?_set_self hi, Option.bind_some]
  · rw [Function.update_of_ne hj, List.getElem?_set_ne (Ne.symm hj)]

/-- A message has its program from the step before, or from the registry in this step. -/
theorem Step.program_cases (h : Step a k s s') {i : Nat} {c' : Call τ} {p : Program}
    (hc' : s'.calls[i]? = some c') (hp : c'.stage.program = some p) :
    (∃ c, s.calls[i]? = some c ∧ c.message = c'.message ∧ c.responder = c'.responder ∧
        c.stage.program = some p) ∨
      Admission.resolve s.registry c'.message c'.responder.isSome = .ok p := by
  have hold (hc : s.calls[i]? = some c') : ∃ c, s.calls[i]? = some c ∧ c.message = c'.message ∧
      c.responder = c'.responder ∧ c.stage.program = some p := ⟨c', hc, rfl, rfl, hp⟩
  cases h with
  | @arrive m r _ _ _ =>
    by_cases hi : i < s.calls.length
    · rw [List.getElem?_append_left hi] at hc'
      exact .inl (hold hc')
    · rw [List.getElem?_append_right (by omega)] at hc'
      cases List.mem_singleton.mp (List.mem_of_getElem? hc')
      cases hp
  | resolve hc hstage hresolve =>
    rcases getElem?_set_eq_some hc' with ⟨rfl, rfl⟩ | hc'
    · cases hp
      exact .inr hresolve
    · exact .inl (hold hc')
  | unresolved | unclaimed | refuse | release =>
    rcases getElem?_set_eq_some hc' with ⟨rfl, rfl⟩ | hc'
    · cases hp
    · exact .inl (hold hc')
  | claim hc hstage | submit hc hstage | accept hc hstage =>
    rcases getElem?_set_eq_some hc' with ⟨rfl, rfl⟩ | hc'
    · exact .inl ⟨_, hc, rfl, rfl, by rw [hstage]; exact hp⟩
    · exact .inl (hold hc')
  | register | unregister | elapse | take | run | deliver | finish | close | expire | drained =>
    exact .inl (hold hc')

/-- Messages that go on have someone to answer to, and all programs around pass their check. -/
structure Sound (r : Registry) (cs : List (Call τ)) : Prop where
  registry : r.Checked
  calls : ∀ (i : Nat) (c : Call τ) (p : Program), cs[i]? = some c → c.stage.program = some p →
    c.responder.isSome ∧ p.check = .ok ()

theorem Step.checked (h : Step a k s s') (hs : s.registry.Checked) : s'.registry.Checked := by
  cases h with
  | register hregister => exact hs.register hregister
  | unregister name => exact hs.unregister name
  | _ => exact hs

theorem Step.sound (h : Step a k s s') (hs : Sound s.registry s.calls) :
    Sound s'.registry s'.calls := by
  refine ⟨h.checked hs.registry, fun i c' p hc' hp => ?_⟩
  rcases h.program_cases hc' hp with ⟨c, hc, -, hresponder, hcp⟩ | hresolve
  · rw [← hresponder]
    exact hs.calls i c p hc hcp
  · exact ⟨(Admission.resolve_eq_ok hresolve).1, hs.registry.resolve hresolve⟩

/-- The program a message goes on with is the one that it was resolved to by the registry of some
moment before. -/
theorem Reachable.resolved (h : Reachable a k s) {i : Nat} {c : Call τ} {p : Program}
    (hc : s.calls[i]? = some c) (hp : c.stage.program = some p) :
    ∃ s₀, Reachable a k s₀ ∧ Relation.ReflTransGen (Step a k) s₀ s ∧
      Admission.resolve s₀.registry c.message c.responder.isSome = .ok p := by
  obtain ⟨size, w, hrun⟩ := h
  induction hrun generalizing c with
  | refl => cases hc
  | @tail s₁ s₂ hbefore hstep ih =>
    -- The message had its program before this step, or this is the step that resolved it.
    rcases hstep.program_cases hc hp with ⟨d, hd, hmessage, hresponder, hdp⟩ | hresolve
    · obtain ⟨s₀, hreach, hlater, hresolve⟩ := ih hd hdp
      rw [hmessage, hresponder] at hresolve
      exact ⟨s₀, hreach, hlater.tail hstep, hresolve⟩
    · exact ⟨s₁, ⟨size, w, hbefore⟩, .single hstep, hresolve⟩

end Courier.Concurrent
