import Courier.Proofs.Fallible
import Courier.Proofs.Keyed
import Courier.Service.Admission

/-! Only programs that pass their check are registered, so only such programs are resolved. -/
namespace Courier

/-- A message is resolved only if it names a registered program, has a responder and fits. -/
theorem Admission.resolve_eq_ok {r : Registry} {m : Message} {hasResponder : Bool} {p : Program}
    (h : resolve r m hasResponder = .ok p) :
    hasResponder = true ∧ r.program m.program = .ok p ∧ p.schema.failures m.fields = [] := by
  by_cases hname : m.program = ""
  · rw [resolve, if_pos hname] at h
    cases h
  cases hasResponder with
  | false =>
    rw [resolve, if_neg hname] at h
    cases h
  | true =>
    rw [resolve, if_neg hname] at h
    obtain ⟨q, hq, h⟩ := bind_eq_ok h
    split at h
    · next hfailures =>
      cases h
      exact ⟨rfl, mapError_eq_ok hq, hfailures⟩
    · cases h

namespace Registry

theorem program_eq_ok_iff (r : Registry) (name : String) (p : Program) :
    r.program name = .ok p ↔ Keyed.get? r name = some p := by
  unfold Registry.program
  cases Keyed.get? r name <;> simp

/-- After a registration, a program that is found is the one that was registered, or it was there before. -/
theorem program_register {r r' : Registry} {p q : Program} {name : String}
    (h : r.register (some p) = .ok r') (hq : r'.program name = .ok q) : q = p ∨ r.program name = .ok q := by
  unfold Registry.register at h
  dsimp only at h
  split at h
  · cases h
  · cases h
    rw [program_eq_ok_iff] at hq ⊢
    by_cases hname : p.name = name
    · subst hname
      rw [Keyed.get?_insert_self] at hq
      exact .inl (Option.some.inj hq).symm
    · rw [Keyed.get?_insert_of_ne _ hname] at hq
      exact .inr hq

/-- Every registered program passes its check. -/
def Checked (r : Registry) : Prop := ∀ e ∈ r, e.2.check = .ok ()

theorem Checked.register {r r' : Registry} {p : Option Program} (hr : r.Checked)
    (h : r.register p = .ok r') : r'.Checked := by
  unfold Registry.register at h
  split at h
  · cases h
  · next p =>
    split at h
    · cases h
    · next hcheck =>
      cases h
      intro e he
      -- Either the program that was just checked, or one that was there before.
      rcases Keyed.mem_insert he with rfl | he
      · exact hcheck
      · exact hr e he

theorem Checked.unregister {r : Registry} (hr : r.Checked) (name : String) :
    (r.unregister name).Checked :=
  fun e he => hr e (Keyed.mem_of_mem_erase he)

/-- A program that is resolved for a message passes its check. -/
theorem Checked.resolve {r : Registry} (hr : r.Checked) {m : Message} {hasResponder : Bool}
    {p : Program} (h : Admission.resolve r m hasResponder = .ok p) : p.check = .ok () := by
  obtain ⟨-, hprogram, -⟩ := Admission.resolve_eq_ok h
  unfold Registry.program at hprogram
  split at hprogram
  · next q hget =>
    cases hprogram
    exact hr _ (Keyed.mem_of_get? hget)
  · cases hprogram

end Registry
end Courier
