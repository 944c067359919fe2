import Courier.Proofs.Keyed
import Courier.Proofs.Text.Cutting
import Courier.Run.Context
import Mathlib.Data.List.Nodup

/-! The names that are bound in a context, over any history of calls to bind.
A name is refused for what it is, whatever is bound already. The bindings and the list of assigned names
are kept in step: one has the last value of each name, the other the names in the order in which they
were bound first. -/
namespace Courier.Context

/-- A name that nothing can be bound to: a blank one, or one that is or lies in a namespace of the
system. -/
def Barred (name : String) : Prop :=
  Text.Blank name.toList ∨ ∃ space ∈ ["sys", "msg"], name = space ∨ ∃ rest, name = space ++ "." ++ rest

theorem inSpace_iff {name space : String} :
    inSpace name space = true ↔ name = space ∨ ∃ rest, name = space ++ "." ++ rest := by
  rw [inSpace, Bool.or_eq_true, decide_eq_true_eq, Text.startsWith_iff]

theorem checkTarget_eq_ok_iff {name : String} : checkTarget name = .ok () ↔ ¬ Barred name := by
  unfold checkTarget Barred
  rw [← Text.trim_eq_empty_iff]
  by_cases hblank : Text.trim name = ""
  · simp [hblank]
  · have hspaces : reservedSpaces.find? (inSpace name) = none ↔
        ¬ ∃ space ∈ ["sys", "msg"], name = space ∨ ∃ rest, name = space ++ "." ++ rest := by
      simp only [List.find?_eq_none, inSpace_iff, reservedSpaces, not_exists, not_and]
    rw [if_neg hblank, not_or, and_iff_right hblank, ← hspaces]
    cases reservedSpaces.find? (inSpace name) with
    | none => exact iff_of_true rfl rfl
    | some space => exact iff_of_false nofun nofun

/-- The context with a name bound, which is put on the list when it is new. -/
def withBound (c : Context) (name : String) (v : Value) : Context :=
  { c with
    bindings := Keyed.insert name v c.bindings
    assigned := if Keyed.contains c.bindings name then c.assigned else c.assigned ++ [name] }

theorem assigned_withBound_of_mem {c : Context} {name : String} (h : name ∈ Keyed.keys c.bindings)
    (v : Value) : (c.withBound name v).assigned = c.assigned :=
  if_pos (Keyed.contains_iff.mpr h)

theorem assigned_withBound_of_notMem {c : Context} {name : String} (h : name ∉ Keyed.keys c.bindings)
    (v : Value) : (c.withBound name v).assigned = c.assigned ++ [name] :=
  if_neg (mt Keyed.contains_iff.mp h)

theorem bind_of_not_barred {name : String} (h : ¬ Barred name) (c : Context) (v : Value) :
    c.bind name v = .ok (c.withBound name v) := by
  rw [bind, checkTarget_eq_ok_iff.mpr h, withBound]

theorem bind_of_barred {name : String} (h : Barred name) (c : Context) (v : Value) :
    ∃ e, c.bind name v = .error e := by
  cases hcheck : checkTarget name with
  | ok u => exact absurd h (checkTarget_eq_ok_iff.mp hcheck)
  | error e =>
    refine ⟨e, ?_⟩
    rw [bind, hcheck]

/-- The context after a call to bind a value to a name. When it is refused, the context is as it was. -/
def afterBind (c : Context) (call : String × Value) : Context :=
  match c.bind call.1 call.2 with
  | .ok d => d
  | .error _ => c

def afterBinds (c : Context) (calls : List (String × Value)) : Context := calls.foldl afterBind c

/-- Those of some calls that succeed when they are made one after the other. -/
def succeeding (c : Context) : List (String × Value) → List (String × Value)
  | [] => []
  | call :: calls =>
    match c.bind call.1 call.2 with
    | .ok d => call :: succeeding d calls
    | .error _ => succeeding c calls

section Outcome

variable {call : String × Value}

theorem afterBind_of_barred (h : Barred call.1) (c : Context) : c.afterBind call = c := by
  obtain ⟨e, he⟩ := bind_of_barred h c call.2
  rw [afterBind, he]

theorem succeeding_cons_of_barred (h : Barred call.1) (c : Context) (calls : List (String × Value)) :
    c.succeeding (call :: calls) = c.succeeding calls := by
  obtain ⟨e, he⟩ := bind_of_barred h c call.2
  rw [succeeding, he]

theorem afterBind_of_not_barred (h : ¬ Barred call.1) (c : Context) :
    c.afterBind call = c.withBound call.1 call.2 := by
  rw [afterBind, bind_of_not_barred h]

theorem succeeding_cons_of_not_barred (h : ¬ Barred call.1) (c : Context) (calls : List (String × Value)) :
    c.succeeding (call :: calls) = call :: (c.withBound call.1 call.2).succeeding calls := by
  rw [succeeding, bind_of_not_barred h]

end Outcome

/-- Calls to bind change nothing but the names. -/
theorem afterBinds_frame (c : Context) (calls : List (String × Value)) :
    ∃ bindings assigned, c.afterBinds calls = { c with bindings, assigned } := by
  induction calls generalizing c with
  | nil => exact ⟨c.bindings, c.assigned, rfl⟩
  | cons call calls ih =>
    obtain ⟨bindings, assigned, hafter⟩ := ih (c.afterBind call)
    refine ⟨bindings, assigned, hafter.trans ?_⟩
    by_cases hname : Barred call.1
    · rw [afterBind_of_barred hname]
    · rw [afterBind_of_not_barred hname, withBound]

/-- The names of a context after some calls that succeeded. -/
structure Tabled (done : List (String × Value)) (c : Context) : Prop where
  -- The bindings are a map, and the list has its names, each once.
  sorted : Keyed.Sorted c.bindings
  names : ∀ name, name ∈ c.assigned ↔ name ∈ Keyed.keys c.bindings
  nodup : c.assigned.Nodup
  -- Names are listed by the first call that bound them, and have the value of the last one.
  order : c.assigned.Pairwise fun a b => (done.map Prod.fst).idxOf a < (done.map Prod.fst).idxOf b
  latest : ∀ name, c.lookup name = (done.reverse.find? fun call => call.1 = name).map Prod.snd
  free : ∀ name ∈ Keyed.keys c.bindings, ¬ Barred name

namespace Tabled

variable {done : List (String × Value)} {c : Context}

theorem start (m : Message) (p : Option Program) : Tabled [] (start m p) where
  sorted := List.Pairwise.nil
  names := fun _ => iff_of_false List.not_mem_nil List.not_mem_nil
  nodup := List.nodup_nil
  order := List.Pairwise.nil
  latest := fun _ => rfl
  free := List.forall_mem_nil _

/-- The names on the list are those of the calls. -/
theorem mem_assigned_iff (h : Tabled done c) {name : String} :
    name ∈ c.assigned ↔ name ∈ done.map Prod.fst := by
  rw [h.names, Keyed.mem_keys_iff, ← Option.isSome_iff_exists, ← lookup, h.latest, Option.isSome_map,
    List.find?_isSome]
  simp

theorem latest_bind (h : Tabled done c) (name : String) (v : Value) (a : String) :
    (c.withBound name v).lookup a =
      ((done ++ [(name, v)]).reverse.find? fun call => call.1 = a).map Prod.snd := by
  rw [List.reverse_append, lookup, withBound]
  by_cases ha : name = a
  · subst ha
    simp [Keyed.get?_insert_self]
  · rw [Keyed.get?_insert_of_ne _ ha, ← lookup, h.latest]
    simp [ha]

/-- A call that succeeds leaves the order of the names that were assigned before. -/
theorem order_bind (h : Tabled done c) (call : String × Value) :
    c.assigned.Pairwise fun a b =>
      ((done ++ [call]).map Prod.fst).idxOf a < ((done ++ [call]).map Prod.fst).idxOf b := by
  refine h.order.imp_of_mem fun ha hb hab => ?_
  rw [h.mem_assigned_iff] at ha hb
  rwa [List.map_append, List.idxOf_append_of_mem ha, List.idxOf_append_of_mem hb]

/-- One more call that succeeds. -/
theorem bind (h : Tabled done c) {name : String} (hname : ¬ Barred name) (v : Value) :
    Tabled (done ++ [(name, v)]) (c.withBound name v) := by
  have hsorted := h.sorted.insert name v
  have hfree : ∀ a ∈ Keyed.keys (Keyed.insert name v c.bindings), ¬ Barred a := by
    intro a ha
    rcases Keyed.mem_keys_insert.mp ha with rfl | ha
    · exact hname
    · exact h.free a ha
  by_cases hbound : name ∈ Keyed.keys c.bindings
  · have hassigned := assigned_withBound_of_mem hbound v
    refine ⟨hsorted, fun a => ?_, hassigned ▸ h.nodup, hassigned ▸ h.order_bind _,
      h.latest_bind name v, hfree⟩
    rw [hassigned, withBound, Keyed.mem_keys_insert, ← h.names]
    refine ⟨.inr, ?_⟩
    rintro (rfl | ha)
    · exact (h.names a).mpr hbound
    · exact ha
  · have hassigned := assigned_withBound_of_notMem hbound v
    have hnew : name ∉ c.assigned := fun hmem => hbound ((h.names name).mp hmem)
    refine ⟨hsorted, fun a => ?_, ?_, ?_, h.latest_bind name v, hfree⟩
    · rw [hassigned, withBound, Keyed.mem_keys_insert, ← h.names, List.mem_append, List.mem_singleton,
        or_comm]
    · rw [hassigned, ← List.concat_eq_append]
      exact List.Nodup.concat hnew h.nodup
    · -- A new name is in none of the calls before this one, so the others come before it.
      rw [hassigned]
      refine List.pairwise_append.mpr ⟨h.order_bind _, List.pairwise_singleton _ _, ?_⟩
      intro a ha b hb
      rw [h.mem_assigned_iff] at ha hnew
      rw [List.mem_singleton.mp hb, List.map_append, List.idxOf_append_of_mem ha,
        List.idxOf_append_of_notMem hnew]
      exact Nat.lt_add_right _ (List.idxOf_lt_length_of_mem ha)

theorem afterBinds (h : Tabled done c) (calls : List (String × Value)) :
    Tabled (done ++ c.succeeding calls) (c.afterBinds calls) := by
  induction calls generalizing done c with
  | nil =>
    rw [succeeding, List.append_nil]
    exact h
  | cons call calls ih =>
    rw [Context.afterBinds, List.foldl_cons]
    by_cases hname : Barred call.1
    · rw [afterBind_of_barred hname, succeeding_cons_of_barred hname]
      exact ih h
    · rw [afterBind_of_not_barred hname, succeeding_cons_of_not_barred hname]
      have hrest := ih (h.bind hname call.2)
      rwa [List.append_assoc] at hrest

end Tabled

/-- Whatever was called, the bindings and the list of assigned names have the same names, in the order in
which they were bound first and each with the value it was bound to last. A call is refused just when its
name is barred, and then everything is as if it had not been made. -/
theorem tabled_afterBinds (m : Message) (p : Option Program) (calls : List (String × Value)) :
    let c := (start m p).afterBinds calls
    Tabled ((start m p).succeeding calls) c ∧
      (∃ bindings assigned, c = { start m p with bindings, assigned }) ∧
      ∀ name v, ((∃ e, c.bind name v = .error e) ↔ Barred name) ∧
        (Barred name → ∀ rest, (start m p).afterBinds (calls ++ (name, v) :: rest) =
          (start m p).afterBinds (calls ++ rest)) := by
  refine ⟨(Tabled.start m p).afterBinds calls, afterBinds_frame _ calls, fun name v => ⟨⟨?_, ?_⟩, ?_⟩⟩
  · rintro ⟨e, he⟩
    by_contra hname
    rw [bind_of_not_barred hname] at he
    cases he
  · intro hname
    exact bind_of_barred hname _ v
  · intro hname rest
    simp only [afterBinds, List.foldl_append, List.foldl_cons]
    rw [afterBind_of_barred hname]

/-- A name that is bound again keeps its place, and one that is refused gets none. -/
example : ((start default none).afterBinds [("x", .bool true), ("y", .null), (" ", .null), ("x", .null),
    ("sys.x", .null)]).assigned = ["x", "y"] := by
  decide

end Courier.Context
