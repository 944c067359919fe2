import Courier.Proofs.Run.Prefix

/-! What a run looks up and does not find.
An expression can lack a value because a variable is not bound or a payload field is missing. The
name is then one that the expression reads itself, somewhere inside, and the statement of a node that the run
has come to holds that expression. -/
namespace Courier

/-- The operator that looked something up in vain, if that is what is wrong with a value. -/
def EvalError.op? : EvalError → Option Op
  | .unbound name => some (.var name)
  | .missing path => some (.field path)
  | _ => none

namespace Expr

/-- The expression or one inside it has the operator at its head. -/
def Holds (e : Expr) (o : Op) : Prop := ∃ t ∈ e.subterms, t.op = o

theorem mem_subterms {op : Op} {args : List Expr} (hop : op ≠ .empty) {t : Expr} :
    t ∈ (Expr.apply op args).subterms ↔ t = .apply op args ∨ t ∈ subtermsAll args := by
  cases op with
  | empty => exact absurd rfl hop
  | lit | var | field | eq | not | unknown => simp only [subterms, List.mem_cons]

section Looks

variable {c : Context} {err : EvalError} {o : Op}

/-- An operator looks something up in vain only if it is the one that does so, or if an operand
does. -/
theorem applyOp_looks {op : Op} {operands : List (Except EvalError Value)}
    (h : applyOp c op operands = .error err) (ho : err.op? = some o) :
    op ≠ .empty ∧ (op = o ∧ applyOp c o [] = .error err ∨ .error err ∈ operands) := by
  cases op with
  | lit => cases h
  | empty | unknown =>
    cases h
    cases ho
  | var name =>
    have halone : applyOp c (.var name) [] = .error err := h
    simp only [applyOp] at h
    split at h
    · cases h
    · cases h
      cases ho
      exact ⟨nofun, .inl ⟨rfl, halone⟩⟩
  | field path =>
    have halone : applyOp c (.field path) [] = .error err := h
    simp only [applyOp] at h
    split at h
    · cases h
    · cases h
      cases ho
      exact ⟨nofun, .inl ⟨rfl, halone⟩⟩
  | eq =>
    refine ⟨nofun, .inr ?_⟩
    simp only [applyOp] at h
    split at h
    · -- The second operand is looked at only when the first has a value.
      rcases bind_eq_error h with ha | ⟨a, -, h⟩
      · exact ha ▸ List.mem_cons_self
      rcases bind_eq_error h with hb | ⟨b, -, h⟩
      · exact hb ▸ List.mem_cons_of_mem _ List.mem_cons_self
      · cases h
    · cases h
      cases ho
  | not =>
    refine ⟨nofun, .inr ?_⟩
    simp only [applyOp] at h
    split at h
    · next a =>
      cases a with
      | error err' =>
        cases h
        exact List.mem_cons_self
      | ok v => cases h
    · cases h
      cases ho

mutual

/-- An expression looks something up in vain only if it holds the operator that does so. -/
theorem eval_looks (ho : err.op? = some o) (e : Expr) (h : e.eval c = .error err) :
    e.Holds o ∧ applyOp c o [] = .error err := by
  match e with
  | .apply op args =>
    rw [eval] at h
    obtain ⟨hop, ⟨rfl, halone⟩ | hmem⟩ := applyOp_looks h ho
    · exact ⟨⟨_, (mem_subterms hop).mpr (.inl rfl), rfl⟩, halone⟩
    · obtain ⟨t, ht, hhead, halone⟩ := evalAll_looks ho args hmem
      exact ⟨⟨t, (mem_subterms hop).mpr (.inr ht), hhead⟩, halone⟩

theorem evalAll_looks (ho : err.op? = some o) (es : List Expr) (h : .error err ∈ evalAll c es) :
    ∃ t ∈ subtermsAll es, t.op = o ∧ applyOp c o [] = .error err := by
  match es with
  | [] => cases h
  | e :: es =>
    rw [evalAll] at h
    rcases List.mem_cons.mp h with h | h
    · obtain ⟨⟨t, ht, hhead⟩, halone⟩ := eval_looks ho e h.symm
      exact ⟨t, List.mem_append_left _ ht, hhead, halone⟩
    · obtain ⟨t, ht, hhead⟩ := evalAll_looks ho es h
      exact ⟨t, List.mem_append_right _ ht, hhead⟩

end

end Looks
end Expr

/-- What was wrong with the value that a node needed, if that is why it could not run. -/
def VisitError.eval? : VisitError → Option EvalError
  | .assign _ err => some err
  | .reply err => some err
  | .condition err => some err
  | _ => none

/-- What was wrong with the value that a node needed, if that is why a run stopped. -/
def WalkError.eval? : WalkError → Option EvalError
  | .dispatch _ _ _ err => err.eval?
  | _ => none

/-- A mark that neither a broken graph nor a bad target carries comes from a value, faults of foreign
visitors apart. -/
theorem VisitError.eval_of_mem_marks {err : VisitError} (h : ∀ fault, err ≠ .foreign fault) {k : Mark}
    (hk : k ∈ err.marks) (hgraph : k ≠ .invalidGraph) (htarget : k ≠ .invalidTarget) :
    ∃ everr, err.eval? = some everr ∧ everr.mark = k := by
  cases err with
  | noGraph | noStatement | wrongKind => exact absurd (List.mem_singleton.mp hk) hgraph
  | target => exact absurd (List.mem_singleton.mp hk) htarget
  | foreign fault => exact absurd rfl (h fault)
  | assign _ everr | reply everr | condition everr =>
    exact ⟨everr, rfl, (List.mem_singleton.mp hk).symm⟩

namespace Visitor

variable {n : Node} {c : Context} {err : VisitError}

/-- What stopped a node that could not run: its statement was not to be found, its expression had no
value, or its target cannot be assigned. -/
theorem visit_eq_error (h : visit n c = .error err) :
    statementOf c n = .error err ∨ (∃ e, err = .target e) ∨
      ∃ s e, statementOf c n = .ok s ∧ (s.value.eval c = .error e ∨ s.cond.eval c = .error e) ∧
        (err = .assign s.target e ∨ err = .reply e ∨ err = .condition e) := by
  rcases bind_eq_error h with hs | ⟨s, hs, -⟩
  · exact .inl hs
  right
  cases hk : n.kind with
  | assign =>
    rw [visit_assign hs hk] at h
    rcases bind_eq_error h with heval | ⟨v, -, hbind⟩
    · obtain ⟨e, he, rfl⟩ := mapError_eq_error heval
      exact .inr ⟨s, e, hs, .inl he, .inl rfl⟩
    · obtain ⟨e, -, rfl⟩ := mapError_eq_error hbind
      exact .inl ⟨e, rfl⟩
  | reply =>
    rw [visit_reply hs hk] at h
    rcases bind_eq_error h with heval | ⟨v, -, hok⟩
    · obtain ⟨e, he, rfl⟩ := mapError_eq_error heval
      exact .inr ⟨s, e, hs, .inl he, .inr (.inl rfl)⟩
    · cases hok
  | branch =>
    rw [visit_branch hs hk] at h
    rcases bind_eq_error h with heval | ⟨v, -, hok⟩
    · obtain ⟨e, he, rfl⟩ := mapError_eq_error heval
      exact .inr ⟨s, e, hs, .inr he, .inr (.inr rfl)⟩
    · cases hok

theorem statementOf_eq_ok {s : Statement} (h : statementOf c n = .ok s) :
    ∃ g, c.graph = some g ∧ g.statement? n.parent = some s := by
  unfold statementOf at h
  split at h
  · cases h
  · next g hg =>
    split at h
    · cases h
    · next s' hs =>
      split_ifs at h
      cases h
      exact ⟨g, hg, hs⟩

theorem statementOf_eq_error (h : statementOf c n = .error err) :
    err.eval? = none ∧ ∀ fault, err ≠ .foreign fault := by
  unfold statementOf at h
  split at h
  · cases h
    exact ⟨rfl, nofun⟩
  · split at h
    · cases h
      exact ⟨rfl, nofun⟩
    · split_ifs at h
      cases h
      exact ⟨rfl, nofun⟩

/-- A node that runs in the ordinary way fails in no other way. -/
theorem visit_not_foreign (h : visit n c = .error err) (fault : Fault) : err ≠ .foreign fault := by
  rcases visit_eq_error h with hs | ⟨e, rfl⟩ | ⟨s, e, -, -, rfl | rfl | rfl⟩
  · exact (statementOf_eq_error hs).2 fault
  all_goals nofun

/-- A node looks something up in vain only if its statement holds the operator that does so. -/
theorem visit_looks {everr : EvalError} {o : Op} (h : visit n c = .error err)
    (heval : err.eval? = some everr) (ho : everr.op? = some o) :
    ∃ g s, c.graph = some g ∧ g.statement? n.parent = some s ∧
      (s.value.Holds o ∨ s.cond.Holds o) ∧ Expr.applyOp c o [] = .error everr := by
  rcases visit_eq_error h with hs | ⟨e, rfl⟩ | ⟨s, e, hs, hfailed, herr⟩
  · rw [(statementOf_eq_error hs).1] at heval
    cases heval
  · cases heval
  obtain ⟨g, hg, hstatement⟩ := statementOf_eq_ok hs
  have he : e = everr := by
    rcases herr with rfl | rfl | rfl
    all_goals exact Option.some.inj heval
  subst he
  rcases hfailed with hfailed | hfailed
  · obtain ⟨hholds, halone⟩ := Expr.eval_looks ho s.value hfailed
    exact ⟨g, s, hg, hstatement, .inl hholds, halone⟩
  · obtain ⟨hholds, halone⟩ := Expr.eval_looks ho s.cond hfailed
    exact ⟨g, s, hg, hstatement, .inr hholds, halone⟩

end Visitor

namespace Graph

variable {g : Graph}

theorem edge_of_advance {s t : Int × Context} (h : g.advance s = some t) (ht : t.1 ≠ noNode) :
    g.Edge s.1 t.1 := by
  unfold advance at h
  split at h
  · cases h
  · next n hn =>
    split at h
    · next d _ =>
      cases h
      exact ⟨n, hn, n.successor_mem_targets d.decision, ht⟩
    · cases h

/-- The uninterrupted run comes only to nodes that its first one leads to. -/
theorem reaches_of_onward {k : Nat} {s t : Int × Context} (h : g.onward k s = some t)
    (ht : t.1 ≠ noNode) : g.Reaches s.1 t.1 := by
  induction k generalizing t with
  | zero =>
    cases h
    exact .refl
  | succ k ih =>
    rw [onward_succ] at h
    obtain ⟨u, hu, hadv⟩ := Option.bind_eq_some_iff.mp h
    have hedge := edge_of_advance hadv ht
    have hne : u.1 ≠ noNode := by
      obtain ⟨n, hn, -⟩ := hedge
      rintro hnone
      rw [hnone, node?_noNode] at hn
      cases hn
    exact (ih hu hne).tail hedge

theorem Placed.isFull (hp : g.Placed) : g.Full := by
  intro hmem
  obtain ⟨i, hi⟩ := List.getElem?_of_mem hmem
  exact hp.full i hi

end Graph

/-- A run that stopped because something was looked up in vain has come to a node whose statement holds
the operator that looked it up. -/
theorem Engine.of_execute_looks {e : Engine} (hv : e.visitor = Visitor.standard) {look : Interrupts}
    {p : Program} {g : Graph} (hg : p.graph = some g) (hp : g.Placed) {m : Message} {r : Result}
    {err : WalkError}
    (hout : (e.execute look (.start m (some p))).outcome = .finished r (some err))
    {everr : EvalError} {o : Op} (heval : err.eval? = some everr) (ho : everr.op? = some o) :
    ∃ cur n s, g.Reaches g.entry cur ∧ g.node? cur = some n ∧ g.statement? n.parent = some s ∧
      (s.value.Holds o ∨ s.cond.Holds o) := by
  obtain ⟨k, left, cur, d, honward, -, -, -, hhalts, -⟩ := execute_halts hv hp.isFull hg hout
  generalize (e.execute look (.start m (some p))).context = c at hhalts
  -- A value is evaluated only at a node that fails.
  cases hhalts with
  | interrupted | missing | exhausted | crashed => cases heval
  | @failed n verr hn hbudget hfailed =>
    obtain ⟨g', s, hg', hs, hholds, -⟩ := Visitor.visit_looks hfailed heval ho
    have hprogram : d.program = some p := congrArg Prod.snd (Graph.onward_frame honward).2
    change d.program.bind Program.graph = some g' at hg'
    rw [hprogram, Option.bind_some, hg] at hg'
    cases hg'
    have hcur : cur ≠ noNode := by
      rintro rfl
      rw [Graph.node?_noNode] at hn
      cases hn
    exact ⟨cur, n, s, Graph.reaches_of_onward honward hcur, hn, hs, hholds⟩

end Courier
