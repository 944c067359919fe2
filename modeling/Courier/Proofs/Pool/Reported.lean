import Courier.Proofs.Pool.Handle

/-! What a handle tells about its life to one who reads its state again and again, while others use it.
A reading looks for the pool and, if there is none, at the flag. A pool that is being built is not there
yet, and a shutdown that waits for it has raised the flag already: whoever reads the state then is told that
everything has ended, and finds the pool active later. All other readings are in order. -/
namespace Courier.Pool

/-- The state that one reads who has found a pool, or none, at a moment that may have passed. -/
def Lazy.stateSeeing {α : Type} (found : Bool) (l : Lazy α) : State :=
  ({ l with pool := if found then l.pool else none } : Lazy α).state

/-- One who has looked just now reads the state of the handle. -/
theorem Lazy.stateSeeing_isSome {α : Type} (l : Lazy α) : l.stateSeeing l.pool.isSome = l.state := by
  unfold stateSeeing
  cases hpool : l.pool <;> simp [hpool, state]

theorem Shared.Moves.rank_le {a b : State} (h : Moves a b) : a.rank ≤ b.rank := by
  cases h with
  | stay => exact Nat.le_refl _
  | close => decide
  | finish => decide

namespace Handle

/-- A state that was read. It was read early if no pool was found, and then the flag was up, although a call
had begun to build. -/
structure Reading where
  state : State
  early : Bool
  deriving DecidableEq

/-- A handle with one who reads its state, and may be in the middle of that. -/
structure Observed where
  handle : Handle
  found : Option Bool := none
  readings : List Reading := []

namespace Observed

inductive Step : Observed → Observed → Prop
  | act {o : Observed} {s : Handle} (h : Handle.Step o.handle s) : Step o { o with handle := s }
  | look {o : Observed} (hidle : o.found = none) :
      Step o { o with found := some o.handle.pool.isSome }
  | read {o : Observed} {found : Bool} (hfound : o.found = some found) :
      Step o { o with
        found := none
        readings := o.readings ++ [{
          state := o.handle.cells.stateSeeing found
          early := !found && o.handle.closed && !o.handle.builds.isEmpty }] }

def Reachable (size : Size) (o : Observed) : Prop :=
  Relation.ReflTransGen Step { handle := Handle.start size } o

end Observed

/-- The state of a handle as if a pool were there from the moment on that somebody begins to build it. -/
def standing (s : Handle) : State :=
  match s.pool with
  | some built => built.2.pool.state
  | none => if s.closed = true ∧ s.builds = [] then .terminated else .uninitialized

variable {size : Size} {s s' : Handle}

/-- The handle was closed before anybody began to build. -/
def Unused (s : Handle) : Prop := s.closed = true ∧ s.builds = [] ∧ s.pool = none

/-- What a step can do to the cells. -/
inductive Change (s s' : Handle) : Prop
  | same (hpool : s'.pool = s.pool) (hbuilds : s'.builds = s.builds)
      (hclosed : s.closed = true → s'.closed = true)
  | began {i : Nat} (hflag : s.closed = false) (hpool : s'.pool = s.pool) (hnone : s.pool = none)
      (hbuilds : s'.builds = s.builds ++ [i])
  | published {i : Nat} (hnone : s.pool = none) (hbegun : s.builds ≠ []) (hclosed : s'.closed = s.closed)
      (hbuilds : s'.builds = s.builds) (hpool : s'.pool = some (i, Shared.start s.size))
  | moved {b : Nat} {p p' : Shared} (hpool : s.pool = some (b, p)) (hstep : Shared.Step p p')
      (hpool' : s'.pool = some (b, p')) (hclosed : s'.closed = s.closed) (hbuilds : s'.builds = s.builds)

theorem Step.change (h : Step s s') (hs : Consistent size s) : Change s s' := by
  cases h with
  | come =>
    refine .same rfl rfl fun hclosed => ?_
    exact Bool.or_eq_true_iff.mpr (.inl hclosed)
  | build hc hflag =>
    obtain ⟨-, -, -, hnone⟩ := hs.fits _ _ hc
    exact .began hflag rfl hnone rfl
  | publish hc =>
    obtain ⟨-, -, hbuilds, hnone⟩ := hs.fits _ _ hc
    exact .published hnone (by rw [hbuilds]; nofun) rfl rfl rfl
  | hand _ hpool => exact .moved hpool (.call _) rfl rfl rfl
  | bring given _ hpool => exact .moved hpool (.call given) rfl rfl rfl
  | close _ hpool hfree => exact .moved hpool (.close hfree) rfl rfl rfl
  | depart _ hpool hcloser hdone => exact .moved hpool (.depart hcloser hdone) rfl rfl rfl
  | inside hpool hquiet => exact .moved hpool hquiet.1 rfl rfl rfl
  | win | pass | decline | leave | miss | receive | reply | find => exact .same rfl rfl id

namespace Change

theorem closed (h : Change s s') (hclosed : s.closed = true) : s'.closed = true := by
  cases h with
  | same _ _ hstays => exact hstays hclosed
  | began hflag => cases hclosed.symm.trans hflag
  | published _ _ hsame => rw [hsame, hclosed]
  | moved _ _ _ hsame => rw [hsame, hclosed]

theorem begun (h : Change s s') (hbegun : s.builds ≠ []) : s'.builds ≠ [] := by
  cases h with
  | same _ hbuilds => rwa [hbuilds]
  | began _ _ _ hbuilds =>
    rw [hbuilds]
    exact List.append_ne_nil_of_right_ne_nil _ nofun
  | published _ _ _ hbuilds => rwa [hbuilds]
  | moved _ _ _ _ hbuilds => rwa [hbuilds]

theorem isSome (h : Change s s') (hsome : s.pool.isSome = true) : s'.pool.isSome = true := by
  cases h with
  | same hpool => rwa [hpool]
  | began _ hpool => rwa [hpool]
  | published _ _ _ _ hpool => rw [hpool]; rfl
  | moved _ _ hpool => rw [hpool]; rfl

/-- A handle that is closed before anybody begins to build never has a pool. -/
theorem unused (h : Change s s') (hunused : s.Unused) : s'.Unused := by
  obtain ⟨hclosed, hbuilds, hpool⟩ := hunused
  refine ⟨h.closed hclosed, ?_⟩
  cases h with
  | same hsame hbuilds' => exact ⟨hbuilds'.trans hbuilds, hsame.trans hpool⟩
  | began hflag => cases hclosed.symm.trans hflag
  | published _ hbegun => exact absurd hbuilds hbegun
  | moved hsome => cases hpool.symm.trans hsome

/-- There is no pool that nobody has begun to build. -/
theorem unbuilt (h : Change s s') (hunbuilt : s.builds = [] → s.pool = none) :
    s'.builds = [] → s'.pool = none := by
  intro hbuilds'
  cases h with
  | same hpool hbuilds =>
    rw [hpool]
    exact hunbuilt (hbuilds ▸ hbuilds')
  | began _ _ _ hbuilds => simp [hbuilds] at hbuilds'
  | published _ hbegun _ hbuilds => exact absurd (hbuilds ▸ hbuilds') hbegun
  | moved hpool _ _ _ hbuilds => cases hpool.symm.trans (hunbuilt (hbuilds ▸ hbuilds'))

theorem standing_le (h : Change s s') : s.standing.rank ≤ s'.standing.rank := by
  cases hpool : s.pool with
  | some built =>
    obtain ⟨b, p⟩ := built
    cases h with
    | same hsame => simp only [standing, hsame, hpool, Nat.le_refl]
    | began _ _ hnone => cases hpool.symm.trans hnone
    | published hnone => cases hpool.symm.trans hnone
    | moved hpool' hstep hmoved =>
      cases hpool.symm.trans hpool'
      simp only [standing, hpool, hmoved]
      exact hstep.moves.rank_le
  | none =>
    by_cases hunused : s.closed = true ∧ s.builds = []
    · -- Nobody can begin to build any more, so that there is still no pool.
      obtain ⟨hclosed', hbuilds', hpool'⟩ := h.unused ⟨hunused.1, hunused.2, hpool⟩
      simp only [standing, hpool, hpool', hunused, hclosed', hbuilds', and_self, ↓reduceIte, Nat.le_refl]
    · have hzero : s.standing = .uninitialized := by simp only [standing, hpool, hunused, ↓reduceIte]
      rw [hzero]
      exact Nat.zero_le _

end Change

namespace Observed

variable {o o' : Observed}

/-- What the readings so far have to do with the handle as it is now. -/
structure Told (o : Observed) : Prop where
  unbuilt : o.handle.builds = [] → o.handle.pool = none
  ordered : (o.readings.filter fun r => !r.early).Pairwise fun a b => a.state.rank ≤ b.state.rank
  standing : ∀ r ∈ o.readings, r.early = false → r.state.rank ≤ o.handle.standing.rank
  early : ∀ r ∈ o.readings, r.early = true →
    r.state = .terminated ∧ o.handle.closed = true ∧ o.handle.builds ≠ []
  found : o.found = some true → o.handle.pool.isSome = true
  /-- Whoever has found no pool was told of none before, unless there will never be one. -/
  missed : o.found = some false → o.handle.Unused ∨
    ∀ r ∈ o.readings, r.early = false → r.state = .uninitialized

theorem Told.act (h : Told o) {s : Handle} (hchange : Change o.handle s) :
    Told { o with handle := s } where
  unbuilt := hchange.unbuilt h.unbuilt
  ordered := h.ordered
  standing r hr hearly := Nat.le_trans (h.standing r hr hearly) hchange.standing_le
  early r hr hearly := by
    obtain ⟨hstate, hclosed, hbegun⟩ := h.early r hr hearly
    exact ⟨hstate, hchange.closed hclosed, hchange.begun hbegun⟩
  found hfound := hchange.isSome (h.found hfound)
  missed hfound := (h.missed hfound).imp_left hchange.unused

theorem Told.look (h : Told o) : Told { o with found := some o.handle.pool.isSome } := by
  refine { h with found := fun hfound => Option.some.inj hfound, missed := ?_ }
  intro hfound
  have hnone : o.handle.pool = none := Option.isSome_eq_false_iff.mp (Option.some.inj hfound) |> Option.isNone_iff_eq_none.mp
  by_cases hunused : o.handle.closed = true ∧ o.handle.builds = []
  · exact .inl ⟨hunused.1, hunused.2, hnone⟩
  · refine .inr fun r hr hearly => ?_
    -- Nothing was told that is further than where the handle stands, and that is at the beginning.
    have hle := h.standing r hr hearly
    simp only [Handle.standing, hnone, hunused, ↓reduceIte] at hle
    cases hstate : r.state <;> simp [hstate, State.rank] at hle ⊢

/-- Whoever has found a pool is told where the handle stands. -/
theorem stateSeeing_true (h : o.handle.pool.isSome = true) :
    o.handle.cells.stateSeeing true = o.handle.standing := by
  obtain ⟨built, hbuilt⟩ := Option.isSome_iff_exists.mp h
  simp [Lazy.stateSeeing, Lazy.state, cells, Handle.standing, hbuilt]

/-- Whoever has found none goes by the flag. -/
theorem stateSeeing_false (s : Handle) :
    s.cells.stateSeeing false = if s.closed then .terminated else .uninitialized := rfl

/-- One more reading: an early one, or one that comes after all that are not early. -/
theorem Told.tell (h : Told o) {r : Reading}
    (hearly : r.early = true → r.state = .terminated ∧ o.handle.closed = true ∧ o.handle.builds ≠ [])
    (hle : r.early = false → r.state.rank ≤ o.handle.standing.rank)
    (hafter : r.early = false → ∀ q ∈ o.readings, q.early = false → q.state.rank ≤ r.state.rank) :
    Told { o with found := none, readings := o.readings ++ [r] } := by
  have hold {P : Reading → Prop} (hreadings : ∀ q ∈ o.readings, P q) (hr : P r) :
      ∀ q ∈ o.readings ++ [r], P q := by
    intro q hq
    rcases List.mem_append.mp hq with hq | hq
    · exact hreadings q hq
    · rwa [List.mem_singleton.mp hq]
  constructor
  case unbuilt => exact h.unbuilt
  case ordered =>
    rw [List.filter_append, List.pairwise_append]
    refine ⟨h.ordered, List.Pairwise.filter _ (List.pairwise_singleton _ r), fun q hq r' hr' => ?_⟩
    obtain ⟨hq, hqearly⟩ := List.mem_filter.mp hq
    obtain ⟨hr', hrearly⟩ := List.mem_filter.mp hr'
    cases List.mem_singleton.mp hr'
    exact hafter (by simpa using hrearly) q hq (by simpa using hqearly)
  case standing => exact hold h.standing hle
  case early => exact hold h.early hearly
  case found => nofun
  case missed => nofun

theorem Told.read (h : Told o) {found : Bool} (hfound : o.found = some found) :
    Told { o with
      found := none
      readings := o.readings ++ [{
        state := o.handle.cells.stateSeeing found
        early := !found && o.handle.closed && !o.handle.builds.isEmpty }] } := by
  cases found with
  | true =>
    have hstate := stateSeeing_true (h.found hfound)
    rw [hstate]
    exact h.tell nofun (fun _ => Nat.le_refl _) fun _ => h.standing
  | false =>
    have hstate := stateSeeing_false o.handle
    cases hflag : o.handle.closed with
    | false =>
      -- The flag is down, so that nothing was told but that there is no pool yet.
      rw [hflag] at hstate
      have hnone : ∀ q ∈ o.readings, q.early = false → q.state = .uninitialized := by
        rcases h.missed hfound with hunused | hnone
        · cases hflag.symm.trans hunused.1
        · exact hnone
      rw [hstate]
      refine h.tell nofun (fun _ => Nat.zero_le _) fun _ q hq hearly => ?_
      rw [hnone q hq hearly]
      exact Nat.le_refl _
    | true =>
      rw [hflag] at hstate
      rw [hstate]
      cases hbuilds : o.handle.builds with
      | nil =>
        have hstanding : o.handle.standing = .terminated := by
          simp only [Handle.standing, h.unbuilt hbuilds, hflag, hbuilds, and_self, ↓reduceIte]
        refine h.tell nofun (fun _ => ?_) fun _ q hq hearly => ?_
        · exact Nat.le_of_eq (congrArg State.rank hstanding.symm)
        · have hle := h.standing q hq hearly
          rw [hstanding] at hle
          exact hle
      | cons i rest =>
        exact h.tell (fun _ => ⟨rfl, hflag, by rw [hbuilds]; nofun⟩) nofun nofun

theorem Reachable.told (h : Reachable size o) : Consistent size o.handle ∧ Told o := by
  induction h with
  | refl =>
    refine ⟨.start size, ?_⟩
    exact { unbuilt := fun _ => rfl, ordered := .nil, standing := nofun, early := nofun, found := nofun, missed := nofun }
  | tail _ hstep ih =>
    obtain ⟨hs, htold⟩ := ih
    cases hstep with
    | act hact => exact ⟨hs.step hact, htold.act (hact.change hs)⟩
    | look => exact ⟨hs, htold.look⟩
    | read hfound => exact ⟨hs, htold.read hfound⟩

/-- What was read of the life of a handle is in order, but for early readings: these say that all has ended,
when the handle is closed and a call has begun to build a pool for it. -/
theorem Reachable.readings_in_order (h : Reachable size o) :
    (o.readings.filter fun r => !r.early).Pairwise (fun a b => a.state.rank ≤ b.state.rank) ∧
      ∀ r ∈ o.readings, r.early = true →
        r.state = .terminated ∧ o.handle.closed = true ∧ o.handle.builds ≠ [] :=
  ⟨h.told.2.ordered, h.told.2.early⟩

/-- The state is read before anybody comes, while the first call builds the pool and a shutdown waits for
that, and when the pool is there. -/
theorem exists_early : ∃ o, Reachable ⟨1, 1⟩ o ∧
    o.readings = [⟨.uninitialized, false⟩, ⟨.terminated, true⟩, ⟨.active, false⟩] := by
  refine ⟨_, .head (.look rfl) <| .head (.read rfl) <|
    .head (.act (.come .get)) <| .head (.act (.win (i := 0) rfl rfl)) <|
    .head (.act (.build (i := 0) rfl rfl)) <| .head (.act (.come .shutdown)) <|
    .head (.look rfl) <| .head (.read rfl) <|
    .head (.act (.publish (i := 0) rfl)) <| .head (.look rfl) <| .head (.read rfl) .refl, rfl⟩

/-- Two of these readings are in order, and the one between them is early. -/
theorem Reachable.readings_in_order_early : ∃ o, Reachable ⟨1, 1⟩ o ∧
    (o.readings.filter fun r => !r.early).map Reading.state = [.uninitialized, .active] ∧
    (o.readings.filter fun r => !r.early).Pairwise (fun a b => a.state.rank ≤ b.state.rank) ∧
    o.handle.closed = true ∧ o.handle.builds ≠ [] := by
  obtain ⟨o, hreach, hreadings⟩ := exists_early
  obtain ⟨hordered, hearly⟩ := hreach.readings_in_order
  have hwindow := hearly ⟨.terminated, true⟩ (by rw [hreadings]; decide) rfl
  exact ⟨o, hreach, by rw [hreadings]; rfl, hordered, hwindow.2⟩

/-- Not all readings are in order: one is told that everything has ended, and then finds the pool active. -/
theorem readings_go_back : ∃ o, Reachable ⟨1, 1⟩ o ∧
    ¬ o.readings.Pairwise fun a b => a.state.rank ≤ b.state.rank := by
  obtain ⟨o, hreach, hreadings⟩ := exists_early
  refine ⟨o, hreach, ?_⟩
  rw [hreadings]
  decide

end Observed
end Handle
end Courier.Pool
