import Courier.Proofs.Program.WellFormed
import Courier.Proofs.Yaml.Decoded

/-! Statement documents and the blocks they denote.
A well-formed block is written out with every expression under its operator, so that no literal can be
taken for one: neither a record with a single key, nor the null that stands for an entry left out. -/
namespace Courier

namespace Expr

mutual
/-- An expression written out. Expressions of no written form come out as null. -/
def document : Expr → Value
  | .apply op args =>
    match op with
    | .lit v => .record [("lit", v)]
    | .var name => .record [("var", .text name)]
    | .field path => .record [("field", .text path)]
    | .eq => .record [("eq", .list (documents args))]
    | .not =>
      match documents args with
      | [v] => .record [("not", v)]
      | _ => .null
    | _ => .null
def documents : List Expr → List Value
  | [] => []
  | e :: es => e.document :: documents es
end

/-- All literals of an expression are values of YAML trees. -/
def Decoded (e : Expr) : Prop := ∀ v, lit v ∈ e.subterms → Yaml.Decoded v

theorem decoded_lit {v : Value} : (lit v).Decoded ↔ Yaml.Decoded v := by
  simp [Decoded, lit, subterms, subtermsAll]

theorem decoded_var (name : String) : (var name).Decoded := by
  simp [Decoded, lit, var, subterms, subtermsAll]

theorem decoded_field (path : String) : (field path).Decoded := by
  simp [Decoded, lit, field, subterms, subtermsAll]

theorem decoded_eq {a b : Expr} : (eq a b).Decoded ↔ a.Decoded ∧ b.Decoded := by
  simp [Decoded, lit, eq, subterms, subtermsAll, or_imp, forall_and]

theorem decoded_not {a : Expr} : (not a).Decoded ↔ a.Decoded := by
  simp [Decoded, lit, not, subterms, subtermsAll]

theorem WellFormed.exprOf_document {e : Expr} (h : e.WellFormed) :
    Source.exprOf e.document = .ok e := by
  induction h with
  | lit v => rfl
  | @var name hname =>
    change (if name = "" then Except.error ExprError.varName else .ok (Expr.var name)) = _
    rw [if_neg hname]
  | @field path hpath =>
    change (if path = "" then Except.error ExprError.fieldPath else .ok (Expr.field path)) = _
    rw [if_neg hpath]
  | @eq a b _ _ iha ihb =>
    change (Source.exprOf a.document >>= fun x => Source.exprOf b.document >>= fun y =>
      Except.ok (Expr.eq x y)) = _
    rw [iha, ihb]
    rfl
  | @not a _ ih =>
    change (Source.exprOf a.document).map Expr.not = _
    rw [ih]
    rfl

/-- A written expression is never taken for an entry that is left out. -/
theorem WellFormed.isNull_document {e : Expr} (h : e.WellFormed) : e.document.isNull = false := by
  cases h with
  | lit | var | field | eq | not => rfl

theorem WellFormed.decoded_document {e : Expr} (h : e.WellFormed) (hd : e.Decoded) :
    Yaml.Decoded e.document := by
  induction h with
  | lit v => exact .tagged "lit" (decoded_lit.mp hd)
  | @var name hname => exact .tagged "var" (.text name)
  | @field path hpath => exact .tagged "field" (.text path)
  | @eq a b _ _ iha ihb =>
    obtain ⟨ha, hb⟩ := decoded_eq.mp hd
    apply Yaml.Decoded.tagged "eq"
    apply Yaml.Decoded.list
    intro v hv
    rcases List.mem_cons.mp hv with rfl | hv
    · exact iha ha
    · rw [List.mem_singleton.mp hv]
      exact ihb hb
  | @not a _ ih => exact .tagged "not" (ih (decoded_not.mp hd))

end Expr

namespace Stmt

mutual
/-- A statement written out. -/
def document : Stmt → StatementDoc
  | .assign target value => .mk target value.document .null .null [] []
  | .reply value => .mk "" .null value.document .null [] []
  | .cond c t e => .mk "" .null .null c.document (documents t) (documents e)
def documents : List Stmt → List StatementDoc
  | [] => []
  | s :: b => s.document :: documents b
end

/-- All literals of a statement are values of YAML trees. -/
inductive Decoded : Stmt → Prop
  | assign {target : String} {value : Expr} (hv : value.Decoded) : Decoded (.assign target value)
  | reply {value : Expr} (hv : value.Decoded) : Decoded (.reply value)
  | cond {c : Expr} {t e : List Stmt} (hc : c.Decoded) (ht : ∀ s ∈ t, Decoded s)
      (he : ∀ s ∈ e, Decoded s) : Decoded (.cond c t e)

end Stmt

def Block.Decoded (b : List Stmt) : Prop := ∀ s ∈ b, s.Decoded

/-- All entries of a document are values of YAML trees. -/
inductive StatementDoc.Decoded : StatementDoc → Prop
  | mk {target : String} {value reply cond : Value} {onTrue onFalse : List StatementDoc}
      (hv : Yaml.Decoded value) (hr : Yaml.Decoded reply) (hc : Yaml.Decoded cond)
      (ht : ∀ d ∈ onTrue, Decoded d) (he : ∀ d ∈ onFalse, Decoded d) :
      Decoded (.mk target value reply cond onTrue onFalse)

namespace Source

theorem branchOf_documents {label : String} {i : Nat} {b : List Stmt}
    (h : ∀ s ∈ b, stmtOf s.document = .ok s) : branchOf label i (Stmt.documents b) = .ok b := by
  induction b generalizing i with
  | nil => rfl
  | cons s b ih =>
    obtain ⟨hs, hb⟩ := List.forall_mem_cons.mp h
    rw [Stmt.documents, branchOf, hs, ih hb]
    rfl

theorem stmtOf_document {s : Stmt} (h : s.WellFormed) : stmtOf s.document = .ok s := by
  induction h with
  | @assign target value ht hv =>
    have hset : (target != "") = true := by simpa using ht
    rw [Stmt.document, stmtOf, hset, hv.exprOf_document]
    rfl
  | @reply value hv =>
    rw [Stmt.document, stmtOf, hv.isNull_document, hv.exprOf_document]
    rfl
  | @cond c t e hc _ _ iht ihe =>
    rw [Stmt.document, stmtOf, hc.isNull_document, hc.exprOf_document,
      branchOf_documents iht, branchOf_documents ihe]
    rfl

/-- Every well-formed block is read back from its documents. -/
theorem bodyOf_documents {i : Nat} {b : Block} (h : Block.WellFormed b) :
    bodyOf i (Stmt.documents b) = .ok b := by
  induction b generalizing i with
  | nil => rfl
  | cons s b ih =>
    obtain ⟨hs, hb⟩ := List.forall_mem_cons.mp h
    rw [Stmt.documents, bodyOf, stmtOf_document hs, ih hb]
    rfl

end Source

theorem Stmt.decoded_documents {b : List Stmt} (h : ∀ s ∈ b, s.document.Decoded) :
    ∀ d ∈ documents b, d.Decoded := by
  induction b with
  | nil => nofun
  | cons s b ih =>
    obtain ⟨hs, hb⟩ := List.forall_mem_cons.mp h
    exact List.forall_mem_cons.mpr ⟨hs, ih hb⟩

theorem Stmt.WellFormed.decoded_document {s : Stmt} (h : s.WellFormed) (hd : s.Decoded) :
    s.document.Decoded := by
  have hnull := Yaml.Decoded.null
  induction h with
  | assign ht hv =>
    cases hd with
    | assign hd => exact .mk (hv.decoded_document hd) hnull hnull nofun nofun
  | reply hv =>
    cases hd with
    | reply hd => exact .mk hnull (hv.decoded_document hd) hnull nofun nofun
  | cond hc ht he iht ihe =>
    cases hd with
    | cond hdc hdt hde =>
      exact .mk hnull hnull (hc.decoded_document hdc)
        (Stmt.decoded_documents fun s hs => iht s hs (hdt s hs))
        (Stmt.decoded_documents fun s hs => ihe s hs (hde s hs))

namespace Source

theorem applied_decoded {op : String} {arg : Value} {inner : Except ExprError Expr}
    {operands : List (Except ExprError Expr)} {e : Expr} (harg : Yaml.Decoded arg)
    (hinner : ∀ a, inner = .ok a → a.Decoded)
    (hoperands : ∀ r ∈ operands, ∀ a, r = .ok a → a.Decoded)
    (h : applied op arg inner operands = .ok e) : e.Decoded := by
  unfold applied at h
  split_ifs at h
  · cases h
    exact Expr.decoded_lit.mpr harg
  · split at h
    · split_ifs at h
      cases h
      exact Expr.decoded_var _
    · cases h
  · split at h
    · split_ifs at h
      cases h
      exact Expr.decoded_field _
    · cases h
  · split at h
    · next a b =>
      obtain ⟨x, hx, h⟩ := bind_eq_ok h
      obtain ⟨y, hy, h⟩ := bind_eq_ok h
      cases h
      exact Expr.decoded_eq.mpr ⟨hoperands a (by simp) x hx, hoperands b (by simp) y hy⟩
    · cases h
  · obtain ⟨a, ha, rfl⟩ := map_eq_ok h
    exact Expr.decoded_not.mpr (hinner a ha)

mutual

/-- Every literal of an expression that was read is the value it was read from, or one that this value
holds. -/
theorem exprOf_decoded (v : Value) (hv : Yaml.Decoded v) (e : Expr) (h : exprOf v = .ok e) :
    e.Decoded := by
  unfold exprOf at h
  split at h
  · next op arg =>
    have harg : Yaml.Decoded arg := hv.of_mem_held List.mem_cons_self
    exact applied_decoded harg (exprOf_decoded arg harg) (operandsOf_decoded arg harg) h
  · cases h
  · next k arg =>
    have harg : Yaml.Decoded arg := hv.of_mem_held List.mem_cons_self
    exact applied_decoded harg (exprOf_decoded arg harg) (operandsOf_decoded arg harg) h
  · split at h <;> cases h
  · cases h
    exact Expr.decoded_lit.mpr hv

theorem operandsOf_decoded (v : Value) (hv : Yaml.Decoded v) :
    ∀ r ∈ operandsOf v, ∀ a, r = .ok a → a.Decoded := by
  unfold operandsOf
  split
  · next vs => exact exprsOf_decoded vs fun u hu => hv.of_mem_held hu
  · simp

theorem exprsOf_decoded (vs : List Value) (hvs : ∀ v ∈ vs, Yaml.Decoded v) :
    ∀ r ∈ exprsOf vs, ∀ a, r = .ok a → a.Decoded := by
  match vs with
  | [] => simp [exprsOf]
  | v :: vs =>
    obtain ⟨hv, hvs⟩ := List.forall_mem_cons.mp hvs
    intro r hr a ha
    rw [exprsOf] at hr
    rcases List.mem_cons.mp hr with rfl | hr
    · exact exprOf_decoded v hv a ha
    · exact exprsOf_decoded vs hvs r hr a ha

end

mutual

theorem stmtOf_decoded (d : StatementDoc) (hd : d.Decoded) (s : Stmt) (h : stmtOf d = .ok s) :
    s.Decoded := by
  match d with
  | .mk target value reply cond onTrue onFalse =>
    cases hd with
    | mk hv hr hc ht he =>
      unfold stmtOf at h
      split at h
      · obtain ⟨v, hread, rfl⟩ := map_eq_ok h
        exact .assign (exprOf_decoded value hv v (mapError_eq_ok hread))
      · obtain ⟨v, hread, rfl⟩ := map_eq_ok h
        exact .reply (exprOf_decoded reply hr v (mapError_eq_ok hread))
      · obtain ⟨c, hcond, h⟩ := bind_eq_ok h
        obtain ⟨t, htrue, h⟩ := bind_eq_ok h
        obtain ⟨e, hfalse, h⟩ := bind_eq_ok h
        cases h
        exact .cond (exprOf_decoded cond hc c (mapError_eq_ok hcond))
          (branchOf_decoded "then" 0 onTrue ht t htrue) (branchOf_decoded "else" 0 onFalse he e hfalse)
      · cases h

theorem branchOf_decoded (label : String) (i : Nat) (ds : List StatementDoc)
    (hds : ∀ d ∈ ds, d.Decoded) (b : List Stmt) (h : branchOf label i ds = .ok b) :
    Block.Decoded b := by
  match ds with
  | [] =>
    cases h
    nofun
  | d :: ds =>
    obtain ⟨hd, hds⟩ := List.forall_mem_cons.mp hds
    rw [branchOf] at h
    obtain ⟨s, hs, h⟩ := bind_eq_ok h
    obtain ⟨ss, hss, h⟩ := bind_eq_ok h
    cases h
    exact List.forall_mem_cons.mpr ⟨stmtOf_decoded d hd s (mapError_eq_ok hs),
      branchOf_decoded label (i + 1) ds hds ss hss⟩

end

theorem bodyOf_decoded {ds : List StatementDoc} (hds : ∀ d ∈ ds, d.Decoded) {i : Nat} {b : Block}
    (h : bodyOf i ds = .ok b) : Block.Decoded b := by
  induction ds generalizing i b with
  | nil =>
    cases h
    nofun
  | cons d ds ih =>
    obtain ⟨hd, hds⟩ := List.forall_mem_cons.mp hds
    rw [bodyOf] at h
    obtain ⟨s, hs, h⟩ := bind_eq_ok h
    obtain ⟨ss, hss, h⟩ := bind_eq_ok h
    cases h
    exact List.forall_mem_cons.mpr ⟨stmtOf_decoded d hd s (mapError_eq_ok hs), ih hds hss⟩

/-- Statement documents denote exactly the well-formed blocks, of any nesting. Those whose entries are
values of YAML trees denote the well-formed blocks whose literals are. -/
theorem bodyOf_denotes (i : Nat) (b : Block) :
    ((∃ ds, bodyOf i ds = .ok b) ↔ Block.WellFormed b) ∧
    ((∃ ds, (∀ d ∈ ds, StatementDoc.Decoded d) ∧ bodyOf i ds = .ok b) ↔
      Block.WellFormed b ∧ Block.Decoded b) := by
  refine ⟨⟨?_, ?_⟩, ⟨?_, ?_⟩⟩
  · rintro ⟨ds, hread⟩
    exact bodyOf_wellFormed ds i b hread
  · intro hb
    exact ⟨Stmt.documents b, bodyOf_documents hb⟩
  · rintro ⟨ds, hds, hread⟩
    exact ⟨bodyOf_wellFormed ds i b hread, bodyOf_decoded hds hread⟩
  · rintro ⟨hb, hd⟩
    have hdocs : ∀ d ∈ Stmt.documents b, StatementDoc.Decoded d :=
      Stmt.decoded_documents fun s hs => (hb s hs).decoded_document (hd s hs)
    exact ⟨Stmt.documents b, hdocs, bodyOf_documents hb⟩

-- A literal that looks like an operator is read as the literal it is, and so is null.
example : let b : Block := [.reply (.lit (.record [("var", .text "x")])), .assign "y" (.lit .null)]
    bodyOf 0 (Stmt.documents b) = .ok b := rfl

end Source
end Courier
