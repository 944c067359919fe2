import Courier.Program.Source
import Courier.Proofs.Program.Meaning

/-! Programs that were read from a document.
Reading makes only well-formed expressions and statements, and a well-formed block can stop only for
a missing name or field, a target that cannot be bound, its budget, or because it is called off. -/
namespace Courier

/-- An expression of one of the five written forms, with a name where one is needed. -/
inductive Expr.WellFormed : Expr → Prop
  | lit (v : Value) : WellFormed (.lit v)
  | var {name : String} (hname : name ≠ "") : WellFormed (.var name)
  | field {path : String} (hpath : path ≠ "") : WellFormed (.field path)
  | eq {a b : Expr} (ha : WellFormed a) (hb : WellFormed b) : WellFormed (.eq a b)
  | not {a : Expr} (ha : WellFormed a) : WellFormed (.not a)

/-- A statement with a target where one is needed, all of whose expressions are well-formed. -/
inductive Stmt.WellFormed : Stmt → Prop
  | assign {target : String} {value : Expr} (ht : target ≠ "") (hv : value.WellFormed) :
      WellFormed (.assign target value)
  | reply {value : Expr} (hv : value.WellFormed) : WellFormed (.reply value)
  | cond {c : Expr} {t e : List Stmt} (hc : c.WellFormed) (ht : ∀ s ∈ t, WellFormed s)
      (he : ∀ s ∈ e, WellFormed s) : WellFormed (.cond c t e)

def Block.WellFormed (b : List Stmt) : Prop := ∀ s ∈ b, s.WellFormed

/-- The only things that can be wrong with the value of a well-formed expression. -/
def EvalError.Lookup : EvalError → Prop
  | .unbound _ => True
  | .missing _ => True
  | _ => False

namespace Expr

theorem eval_var (c : Context) (name : String) :
    (var name).eval c = (c.lookup name).elim (.error (.unbound name)) .ok := by
  change applyOp c (.var name) [] = _
  rw [applyOp]
  cases c.lookup name <;> rfl

theorem eval_field (c : Context) (path : String) :
    (field path).eval c = (c.message.lookup path).elim (.error (.missing path)) .ok := by
  change applyOp c (.field path) [] = _
  rw [applyOp]
  cases c.message.lookup path <;> rfl

theorem eval_eq (c : Context) (a b : Expr) :
    (eq a b).eval c = a.eval c >>= fun x => b.eval c >>= fun y => .ok (.bool (x.equal y)) := rfl

theorem eval_not (c : Context) (a : Expr) :
    (not a).eval c = (a.eval c).map fun v => .bool !v.truthy := rfl

/-- A well-formed expression lacks a value only for a name or a field that is not there. -/
theorem WellFormed.lookup_of_eval_error {e : Expr} (h : e.WellFormed) {c : Context}
    {err : EvalError} (herr : e.eval c = .error err) : err.Lookup := by
  induction h generalizing err with
  | lit v => cases herr
  | @var name hname =>
    -- The name is given, so only its value can be missing.
    rw [eval_var] at herr
    cases hl : c.lookup name with
    | some v =>
      rw [hl] at herr
      cases herr
    | none =>
      rw [hl] at herr
      cases herr
      trivial
  | @field path hpath =>
    rw [eval_field] at herr
    cases hl : c.message.lookup path with
    | some v =>
      rw [hl] at herr
      cases herr
    | none =>
      rw [hl] at herr
      cases herr
      trivial
  | @eq a b _ _ iha ihb =>
    rw [eval_eq] at herr
    rcases bind_eq_error herr with ha | ⟨x, -, herr⟩
    · exact iha ha
    · rcases bind_eq_error herr with hb | ⟨y, -, herr⟩
      · exact ihb hb
      · cases herr
  | @not a _ ih =>
    rw [eval_not] at herr
    cases ha : a.eval c with
    | error x =>
      rw [ha] at herr
      cases herr
      exact ih ha
    | ok v =>
      rw [ha] at herr
      cases herr

end Expr

namespace Source

theorem applied_wellFormed {op : String} {arg : Value} {inner : Except ExprError Expr}
    {operands : List (Except ExprError Expr)} {e : Expr}
    (hinner : ∀ a, inner = .ok a → a.WellFormed)
    (hoperands : ∀ r ∈ operands, ∀ a, r = .ok a → a.WellFormed)
    (h : applied op arg inner operands = .ok e) : e.WellFormed := by
  unfold applied at h
  split_ifs at h
  · cases h
    exact .lit arg
  · split at h
    · next s =>
      split_ifs at h with hs
      cases h
      exact .var hs
    · cases h
  · split at h
    · next s =>
      split_ifs at h with hs
      cases h
      exact .field hs
    · cases h
  · split at h
    · next a b =>
      obtain ⟨x, hx, h⟩ := bind_eq_ok h
      obtain ⟨y, hy, h⟩ := bind_eq_ok h
      cases h
      exact .eq (hoperands a (by simp) x hx) (hoperands b (by simp) y hy)
    · cases h
  · obtain ⟨a, ha, rfl⟩ := map_eq_ok h
    exact .not (hinner a ha)

mutual
/-- Whatever value is read as an expression, the expression is well-formed. -/
theorem exprOf_wellFormed (v : Value) (e : Expr) (h : exprOf v = .ok e) : e.WellFormed := by
  unfold exprOf at h
  split at h
  · next op arg =>
    exact applied_wellFormed (exprOf_wellFormed arg) (operandsOf_wellFormed arg) h
  · cases h
  · next k arg =>
    exact applied_wellFormed (exprOf_wellFormed arg) (operandsOf_wellFormed arg) h
  -- A table with several keys is never read as an expression.
  · split at h <;> cases h
  · cases h
    exact .lit v
theorem operandsOf_wellFormed (v : Value) :
    ∀ r ∈ operandsOf v, ∀ a, r = .ok a → a.WellFormed := by
  unfold operandsOf
  split
  · next vs => exact exprsOf_wellFormed vs
  · simp
theorem exprsOf_wellFormed (vs : List Value) :
    ∀ r ∈ exprsOf vs, ∀ a, r = .ok a → a.WellFormed := by
  cases vs with
  | nil => simp [exprsOf]
  | cons v vs =>
    intro r hr a ha
    rw [exprsOf] at hr
    rcases List.mem_cons.mp hr with rfl | hr
    · exact exprOf_wellFormed v a ha
    · exact exprsOf_wellFormed vs r hr a ha
end

mutual
theorem stmtOf_wellFormed (d : StatementDoc) (s : Stmt) (h : stmtOf d = .ok s) : s.WellFormed := by
  cases d with
  | mk target value reply cond onTrue onFalse =>
    unfold stmtOf at h
    split at h
    · next htarget _ _ =>
      obtain ⟨v, hv, rfl⟩ := map_eq_ok h
      exact .assign (by simpa using htarget) (exprOf_wellFormed value v (mapError_eq_ok hv))
    · obtain ⟨v, hv, rfl⟩ := map_eq_ok h
      exact .reply (exprOf_wellFormed reply v (mapError_eq_ok hv))
    · obtain ⟨c, hc, h⟩ := bind_eq_ok h
      obtain ⟨t, ht, h⟩ := bind_eq_ok h
      obtain ⟨e, he, h⟩ := bind_eq_ok h
      cases h
      exact .cond (exprOf_wellFormed cond c (mapError_eq_ok hc))
        (branchOf_wellFormed "then" 0 onTrue t ht) (branchOf_wellFormed "else" 0 onFalse e he)
    · cases h
theorem branchOf_wellFormed (label : String) (i : Nat) (ds : List StatementDoc) (b : List Stmt)
    (h : branchOf label i ds = .ok b) : Block.WellFormed b := by
  cases ds with
  | nil =>
    cases h
    simp [Block.WellFormed]
  | cons d ds =>
    rw [branchOf] at h
    obtain ⟨s, hs, h⟩ := bind_eq_ok h
    obtain ⟨ss, hss, h⟩ := bind_eq_ok h
    cases h
    have hs' := stmtOf_wellFormed d s (mapError_eq_ok hs)
    have hss' := branchOf_wellFormed label (i + 1) ds ss hss
    exact List.forall_mem_cons.mpr ⟨hs', hss'⟩
end

theorem bodyOf_wellFormed (ds : List StatementDoc) (i : Nat) (b : Block)
    (h : bodyOf i ds = .ok b) : Block.WellFormed b := by
  induction ds generalizing i b with
  | nil =>
    cases h
    simp [Block.WellFormed]
  | cons d ds ih =>
    rw [bodyOf] at h
    obtain ⟨s, hs, h⟩ := bind_eq_ok h
    obtain ⟨ss, hss, h⟩ := bind_eq_ok h
    cases h
    exact List.forall_mem_cons.mpr ⟨stmtOf_wellFormed d s (mapError_eq_ok hs), ih (i + 1) ss hss⟩

theorem draftOf_wellFormed {file : String} {doc : ProgramDoc} {d : Draft}
    (h : draftOf file doc = .ok d) : Block.WellFormed d.body := by
  unfold draftOf at h
  simp only at h
  -- The document names its program, or the file does; the statements are read alike.
  split_ifs at h
  all_goals
    obtain ⟨input, -, h⟩ := bind_eq_ok h
    obtain ⟨body, hbody, h⟩ := bind_eq_ok h
    cases h
    exact bodyOf_wellFormed doc.statements 0 body (mapError_eq_ok hbody)

/-- A text that is read as a program is the draft of a well-formed body, built. -/
theorem parse_eq_ok {file text : String} {p : Program} (h : parse file text = .ok p) :
    ∃ d : Draft, d.build = .ok p ∧ Block.WellFormed d.body := by
  unfold parse at h
  split at h
  · cases h
  · cases h
  · next root _ =>
    simp only at h
    split_ifs at h
    split at h
    · cases h
    · next draft hdraft =>
      split at h
      · cases h
      · next q hbuild =>
        cases h
        exact ⟨draft, hbuild, draftOf_wellFormed hdraft⟩

end Source

/-- A failure that lies in the data: a name without a value, a field the message lacks, or a target
that cannot be bound. -/
def VisitError.InData (err : VisitError) : Prop :=
  err.marks = [.unboundVariable] ∨ err.marks = [.missingField] ∨ err.marks = [.invalidTarget]

/-- A run that stopped for nothing that is wrong with its program. -/
def Halt.Benign : Halt → Prop
  | .interrupted _ => True
  | .budget _ _ => True
  | .fault _ _ err => err.InData

theorem EvalError.Lookup.inData {err : EvalError} (h : err.Lookup) {v : VisitError}
    (hv : v.marks = [err.mark]) : v.InData := by
  cases err with
  | unbound name => exact .inl hv
  | missing path => exact .inr (.inl hv)
  | arity op wanted got => exact h.elim
  | empty => exact h.elim
  | unknown op => exact h.elim

namespace Block

variable {look : Interrupts} {limit i : Nat}

theorem enter_benign {stmt : Stmt} {s : Env} {x : Stopped}
    (h : enter look limit i stmt s = .error x) : x.halt.Benign := by
  unfold enter at h
  split at h
  · cases h
    trivial
  · split_ifs at h
    cases h
    trivial

/-- A failed evaluation of a well-formed expression is a failure in the data. -/
theorem attempt_eval_benign {stmt : Stmt} {s : Env} {e : Expr} {x : Stopped}
    {wrap : EvalError → VisitError} (he : e.WellFormed)
    (hwrap : ∀ err, (wrap err).marks = [err.mark])
    (h : attempt i stmt s ((e.eval s.context).mapError wrap) = .error x) : x.halt.Benign := by
  obtain ⟨v, hv, rfl⟩ := mapError_eq_error h
  obtain ⟨err, herr, rfl⟩ := mapError_eq_error hv
  exact (he.lookup_of_eval_error herr).inData (hwrap err)

mutual
theorem runStmt_benign (stmt : Stmt) (hs : stmt.WellFormed) (i : Nat) (s : Env) (x : Stopped)
    (h : runStmt look limit i s stmt = .error x) : x.halt.Benign := by
  cases hs with
  | assign ht hv =>
    rw [runStmt] at h
    rcases bind_eq_error h with h | ⟨s', -, h⟩
    · exact enter_benign h
    rcases bind_eq_error h with h | ⟨v, -, h⟩
    · exact attempt_eval_benign hv (fun _ => rfl) h
    -- The value is there, so the target is what could not be bound.
    obtain ⟨err, herr, rfl⟩ := mapError_eq_error h
    obtain ⟨terr, -, rfl⟩ := mapError_eq_error herr
    exact .inr (.inr rfl)
  | reply hv =>
    rw [runStmt] at h
    rcases bind_eq_error h with h | ⟨s', -, h⟩
    · exact enter_benign h
    rcases bind_eq_error h with h | ⟨v, -, h⟩
    · exact attempt_eval_benign hv (fun _ => rfl) h
    cases h
  | @cond c t e hc ht he =>
    rw [runStmt] at h
    rcases bind_eq_error h with h | ⟨s', -, h⟩
    · exact enter_benign h
    rcases bind_eq_error h with h | ⟨v, -, h⟩
    -- The condition stopped it, or else one of the two branches did.
    · exact attempt_eval_benign hc (fun _ => rfl) h
    split_ifs at h
    · exact runBlock_benign t ht (i + 1) s' x h
    · exact runBlock_benign e he (i + 1 + count t) s' x h
/-- A well-formed block stops for nothing that is wrong with it. -/
theorem runBlock_benign (b : List Stmt) (hb : Block.WellFormed b) (i : Nat) (s : Env) (x : Stopped)
    (h : runBlock look limit i s b = .error x) : x.halt.Benign := by
  cases b with
  | nil => cases h
  | cons stmt b =>
    obtain ⟨hstmt, hrest⟩ := List.forall_mem_cons.mp hb
    rw [runBlock] at h
    rcases bind_eq_error h with h | ⟨s', -, h⟩
    · exact runStmt_benign stmt hstmt i s x h
    · exact runBlock_benign b hrest (i + stmtCount stmt) s' x h
end

end Block

/-- A success, or a failure for exactly one of three reasons: a node that failed over the data, the
step limit, and an interruption. -/
def Outcome.Benign (limit : Nat) (x : Outcome) : Prop :=
  ∃ r stop, x = .finished r stop ∧
    ((stop = none ∧ r.status = .success ∧ r.failure = none) ∨
      ∃ err f, stop = some err ∧ r.status = .failure ∧ r.failure = some f ∧
        ((f.kind = .dispatch ∧ ∃ node kind statement cause,
            err = .dispatch node kind statement cause ∧ cause.InData) ∨
          (f.kind = .stepLimit ∧ ∃ node, err = .stepLimit node limit) ∨
          (f.kind = .cancelled ∧ ∃ i, err = .interrupted i)))

/-- A program that was read from a text never goes structurally wrong: whatever the message, the
step budget and the moment at which it is called off, a request to it has a benign outcome. -/
theorem Source.execute_parse {file text : String} {p : Program} (h : parse file text = .ok p)
    (e : Engine) (he : e.Ordinary) (look : Interrupts) (m : Message) :
    (e.execute look (Context.start m (some p))).outcome.Benign e.maxSteps := by
  obtain ⟨d, hbuild, hwf⟩ := parse_eq_ok h
  obtain ⟨rfl, -, hbody⟩ := Draft.of_build_eq_ok hbuild
  -- The request ends as running the statements that were read does.
  have hended := Engine.execute_endedAs hbody he look m
  cases hr : Block.interpret look e.maxSteps d.body m with
  | ok s =>
    rw [hr] at hended
    obtain ⟨r, hout, -, hstatus, hfailure⟩ := hended
    exact ⟨r, none, hout, .inl ⟨rfl, hstatus, hfailure⟩⟩
  | error x =>
    rw [hr] at hended
    obtain ⟨r, err, f, hout, -, hstatus, hfailure, htells⟩ := hended
    refine ⟨r, some err, hout, .inr ⟨err, f, rfl, hstatus, hfailure, ?_⟩⟩
    -- What the request reports is what stopped the run, and that was benign.
    have hbenign := Block.runBlock_benign d.body hwf 0 (.start m) x hr
    cases hhalt : x.halt with
    | interrupted i =>
      rw [hhalt] at htells
      exact .inr (.inr ⟨htells.2, i, htells.1⟩)
    | budget k s =>
      rw [hhalt] at htells
      exact .inr (.inl ⟨htells.2.1, f.nodeId, htells.1⟩)
    | fault k s cause =>
      rw [hhalt] at htells hbenign
      obtain ⟨⟨kind, herr⟩, hkind, -⟩ := htells
      exact .inl ⟨hkind, f.nodeId, kind, k, cause, herr, hbenign⟩

/-- A program that asks for a name nobody has bound. -/
theorem Source.execute_parse_unbound :
    ∃ p, parse "" "name: greet\nstatements:\n  - reply:\n      var: guest\n" = .ok p ∧
      ({} : Engine).Ordinary ∧
      (({} : Engine).execute .never (Context.start default (some p))).outcome.Benign 10000 := by
  have hread :
      (parse "" "name: greet\nstatements:\n  - reply:\n      var: guest\n").isOk = true := by
    decide +kernel
  generalize hp : parse "" "name: greet\nstatements:\n  - reply:\n      var: guest\n" = read at *
  cases read with
  | error err => cases hread
  | ok p =>
    have hordinary : ({} : Engine).Ordinary := ⟨rfl, fun _ => rfl⟩
    exact ⟨p, rfl, hordinary, execute_parse hp {} hordinary .never default⟩

end Courier
