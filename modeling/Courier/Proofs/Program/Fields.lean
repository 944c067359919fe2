import Courier.Proofs.Keyed
import Courier.Proofs.Program.Layout
import Courier.Proofs.Program.Lint
import Courier.Proofs.Run.Lookup

/-! Which payload fields a run can miss.
A field is named in four places: by the expression that reads it, by the advice about that expression,
by the schema, and by the payload. What the first reads is followed through the other three. -/
namespace Courier

namespace Text

variable {sep : Char} {cs : List Char}

theorem splitChars_of_not_mem (h : sep ∉ cs) : splitChars sep cs = [cs] := by
  induction cs with
  | nil => rfl
  | cons c cs ih =>
    obtain ⟨hc, hcs⟩ := not_or.mp (List.mem_cons.not.mp h)
    rw [splitChars, if_neg (Ne.symm hc), ih hcs]

theorem cutChars_of_not_mem (h : sep ∉ cs) : cutChars sep cs = (cs, none) := by
  induction cs with
  | nil => rfl
  | cons c cs ih =>
    obtain ⟨hc, hcs⟩ := not_or.mp (List.mem_cons.not.mp h)
    rw [cutChars, if_neg (Ne.symm hc), ih hcs]

end Text

/-- A path without points is the name of a field. -/
theorem Message.lookup_of_no_point (m : Message) {f : String} (hf : f ≠ "") (hpoint : '.' ∉ f.toList) :
    m.lookup f = Keyed.get? m.fields f := by
  have hsplit : Text.split '.' f = [f] := by
    rw [Text.split, Text.splitChars_of_not_mem hpoint, List.map_singleton, String.ofList_toList]
  rw [lookup, if_neg hf, hsplit, follow]
  cases Keyed.get? m.fields f with
  | none => rfl
  | some v => rfl

namespace Schema

variable {s : Schema} {data : Keyed Value}

/-- A payload that satisfies a schema has every field that is declared without a mark. -/
theorem get?_ne_none_of_failures (h : s.failures data = []) {f : String}
    (hf : Keyed.contains s f = true) (hmark : (splitOptional f).2 = false) :
    Keyed.get? data f ≠ none := by
  intro hnone
  obtain ⟨t, ht⟩ := Option.isSome_iff_exists.mp hf
  have hsplit : splitOptional f = (f, false) := by
    unfold splitOptional at hmark ⊢
    split
    · next hrev =>
      rw [hrev] at hmark
      cases hmark
    · rfl
  have hfail : fieldError? data f t = some ⟨f, .required⟩ := by
    simp only [fieldError?, hsplit, hnone, Bool.false_eq_true, ↓reduceIte]
  have hmem : (⟨f, .required⟩ : FieldError) ∈ s.failures data :=
    List.mem_filterMap.mpr ⟨(f, t), Keyed.mem_of_get? ht, hfail⟩
  rw [h] at hmem
  cases hmem

end Schema

namespace Expr

/-- The expression or one inside it is a payload field. -/
def Reads (e : Expr) (f : String) : Prop := ∃ t ∈ e.subterms, t.op = .field f

/-- A field is missed only if the payload does not have it. -/
theorem lookup_of_missing {c : Context} {f : String}
    (h : applyOp c (.field f) [] = .error (.missing f)) : c.message.lookup f = none := by
  simp only [applyOp] at h
  split at h
  · cases h
  · next hnone => exact hnone

end Expr

/-- The field that a node missed, if that is why it could not run. -/
def VisitError.missing? : VisitError → Option String
  | .assign _ (.missing f) => some f
  | .reply (.missing f) => some f
  | .condition (.missing f) => some f
  | _ => none

/-- The field that a run missed, if that is why it stopped. -/
def WalkError.missing? : WalkError → Option String
  | .dispatch _ _ _ err => err.missing?
  | _ => none

theorem VisitError.missing?_eq_some_iff {err : VisitError} {f : String} :
    err.missing? = some f ↔ err.eval? = some (.missing f) := by
  cases err with
  | noGraph | noStatement | wrongKind | target | foreign => simp [missing?, eval?]
  | assign _ e | reply e | condition e => cases e <;> simp [missing?, eval?]

/-- An error of a run is marked as a missing field exactly if it tells which, faults of foreign visitors
apart. -/
theorem VisitError.mem_marks_iff {err : VisitError} (h : ∀ fault, err ≠ .foreign fault) :
    Mark.missingField ∈ err.marks ↔ ∃ f, err.missing? = some f := by
  cases err with
  | noGraph | noStatement | wrongKind | target => simp [marks, missing?]
  | foreign fault => exact absurd rfl (h fault)
  | assign _ e | reply e | condition e => cases e <;> simp [marks, missing?, EvalError.mark]

namespace Visitor

variable {n : Node} {c : Context} {err : VisitError}

/-- A node misses a field only if its statement reads it and the payload does not have it. -/
theorem visit_missing {f : String} (h : visit n c = .error err) (hf : err.missing? = some f) :
    ∃ g s, c.graph = some g ∧ g.statement? n.parent = some s ∧
      (s.value.Reads f ∨ s.cond.Reads f) ∧ c.message.lookup f = none := by
  have heval := VisitError.missing?_eq_some_iff.mp hf
  obtain ⟨g, s, hg, hs, hreads, halone⟩ := visit_looks h heval rfl
  exact ⟨g, s, hg, hs, hreads, Expr.lookup_of_missing halone⟩

end Visitor

namespace Lint

variable {input : Schema} {assigned : List String}

/-- Where nothing is advised about an expression, the schema has the first name of every path it
reads, with a mark or without. -/
theorem contains_of_exprAdvice {e : Expr} (h : exprAdvice input assigned e = []) (hinput : input ≠ [])
    {f : String} (hreads : e.Reads f) :
    Keyed.contains input (String.ofList (Text.cutChars '.' f.toList).1) = true ∨
      Keyed.contains input (String.ofList (Text.cutChars '.' f.toList).1 ++ "?") = true := by
  obtain ⟨t, ht, hfield⟩ := hreads
  have hquiet := List.filterMap_eq_nil_iff.mp h t ht
  rw [hfield] at hquiet
  dsimp only at hquiet
  split_ifs at hquiet with hdeclared
  rcases hdeclared with hempty | hdeclared
  · exact absurd (List.isEmpty_iff.mp hempty) hinput
  · exact hdeclared

/-- Where nothing is advised about a program, the same holds of the statement of every node that its
entry leads to. -/
theorem contains_of_lint {p : Program} {g : Graph} (hg : p.graph = some g) (hp : g.Placed)
    (hlint : p.lint? = some []) (hinput : p.schema ≠ []) {cur : Int} {n : Node}
    (hn : g.node? cur = some n) (hreach : g.Reaches g.entry cur) {s : Statement}
    (hs : g.statement? n.parent = some s) {f : String} (hreads : s.value.Reads f ∨ s.cond.Reads f) :
    Keyed.contains p.schema (String.ofList (Text.cutChars '.' f.toList).1) = true ∨
      Keyed.contains p.schema (String.ofList (Text.cutChars '.' f.toList).1 ++ "?") = true := by
  have hquiet := nodeAdvice_of_quiet hg hp hlint hn hreach
  simp only [nodeAdvice, hs, List.map_eq_nil_iff, List.append_eq_nil_iff] at hquiet
  rcases hreads with hreads | hreads
  · exact contains_of_exprAdvice hquiet.1 hinput hreads
  · exact contains_of_exprAdvice hquiet.2 hinput hreads

end Lint

namespace Engine

/-- A request to a sound program about which nothing is advised, with a payload that satisfies its
schema, is stopped by a missing field only if the schema lets that field be absent. It does so for paths
with points in them, for fields declared with a mark, and where a name stands for itself though no
payload can satisfy it: an empty one, and one that ends in a mark. -/
theorem execute_missing {e : Engine} (hv : e.visitor = Visitor.standard) (look : Interrupts)
    {p : Program} (hcheck : p.check = .ok ()) (hinput : p.schema ≠ []) (hlint : p.lint? = some [])
    {m : Message} (hpayload : p.schema.failures m.fields = []) {r : Result} {err : WalkError}
    (hout : (e.execute look (.start m (some p))).outcome = .finished r (some err))
    (hmark : Mark.missingField ∈ err.marks) :
    ∃ f, err.missing? = some f ∧ ('.' ∈ f.toList ∨ Keyed.contains p.schema (f ++ "?") = true ∨
      (Keyed.contains p.schema f = true ∧ (f = "" ∨ (Schema.splitOptional f).2 = true))) := by
  obtain ⟨-, g, hg, hgraph⟩ := (Program.check_eq_ok_iff p).mp hcheck
  have hp := Graph.placed_of_check hgraph
  obtain ⟨k, left, cur, d, honward, -, -, -, hhalts, -⟩ := execute_halts hv hp.isFull hg hout
  generalize (e.execute look (.start m (some p))).context = c at hhalts
  cases hhalts with
  | @interrupted i => cases i <;> simp [WalkError.marks, Interruption.fault, Fault.canceled,
      Fault.deadline] at hmark
  | missing | exhausted => simp [WalkError.marks] at hmark
  | crashed => cases hmark
  | @failed n verr hn hbudget herr =>
    obtain ⟨f, hf⟩ := (VisitError.mem_marks_iff (Visitor.visit_not_foreign herr)).mp hmark
    refine ⟨f, hf, ?_⟩
    obtain ⟨g', s, hg', hs, hreads, hnone⟩ := Visitor.visit_missing herr hf
    -- The request has not changed on the way to the node.
    have hrequest := (Graph.onward_frame honward).2
    have hmessage : d.message = m := congrArg Prod.fst hrequest
    have hprogram : d.program = some p := congrArg Prod.snd hrequest
    change d.message.lookup f = none at hnone
    change d.program.bind Program.graph = some g' at hg'
    rw [hmessage] at hnone
    rw [hprogram, Option.bind_some, hg] at hg'
    cases hg'
    have hcur : cur ≠ noNode := by
      rintro rfl
      rw [Graph.node?_noNode] at hn
      cases hn
    have hreach : g.Reaches g.entry cur := Graph.reaches_of_onward honward hcur
    have hdeclared := Lint.contains_of_lint hg hp hlint hinput hn hreach hs hreads
    by_cases hpoint : '.' ∈ f.toList
    · exact .inl hpoint
    right
    rw [Text.cutChars_of_not_mem hpoint, String.ofList_toList] at hdeclared
    rcases hdeclared with hdeclared | hdeclared
    · right
      refine ⟨hdeclared, ?_⟩
      by_contra hstrict
      obtain ⟨hempty, hplain⟩ := not_or.mp hstrict
      -- A field of its own name is looked up under that name, where the payload must have it.
      have hpresent := Schema.get?_ne_none_of_failures hpayload hdeclared
        (Bool.eq_false_iff.mpr hplain)
      rw [Message.lookup_of_no_point m hempty hpoint] at hnone
      exact hpresent hnone
    · exact .inl hdeclared

/-- A request that gets into a branch and there misses a field that may be absent. -/
theorem execute_missing_branch :
    let p : Program := (⟨"p", "", "", some [("a", .bool), ("b?", .any)],
      [.cond (.not (.field "a")) [.reply (.field "b")] []]⟩ : Draft).program
    let m : Message := ⟨"m", "p", none, some [("a", .bool false)]⟩
    let x := ({ maxSteps := 2 } : Engine).execute .never (.start m (some p))
    let err : WalkError := .dispatch 0 .reply 1 (.reply (.missing "b"))
    p.check = .ok () ∧ p.lint? = some [] ∧ p.schema.failures m.fields = [] ∧
    x.outcome = .finished x.result (some err) ∧
    ∃ f, err.missing? = some f ∧ ('.' ∈ f.toList ∨ Keyed.contains p.schema (f ++ "?") = true ∨
      (Keyed.contains p.schema f = true ∧ (f = "" ∨ (Schema.splitOptional f).2 = true))) := by
  intro p m x err
  have hcheck : p.check = .ok () := rfl
  have hlint : p.lint? = some [] := by decide +kernel
  have hout : x.outcome = .finished x.result (some err) := rfl
  exact ⟨hcheck, hlint, rfl, hout,
    execute_missing rfl .never hcheck (List.cons_ne_nil _ _) hlint rfl hout (by decide)⟩

/-- A field whose name ends in the mark of another: the schema declares `x`, which may be absent, the
program reads `x?`, and neither the advice nor the check of the payload finds fault with that. -/
theorem execute_missing_marked :
    ¬ ∀ (p : Program) (m : Message) (r : Result) (err : WalkError) (f : String),
      p.check = .ok () → p.schema ≠ [] → p.lint? = some [] → p.schema.failures m.fields = [] →
      (({} : Engine).execute .never (.start m (some p))).outcome = .finished r (some err) →
      err.missing? = some f → '.' ∈ f.toList ∨ Keyed.contains p.schema (f ++ "?") = true := by
  intro h
  let p : Program := (⟨"p", "", "", some [("x?", .string)], [.reply (.field "x?")]⟩ : Draft).program
  let m : Message := ⟨"m", "p", none, none⟩
  have hlint : p.lint? = some [] := by decide +kernel
  have hloose := h p m _ (.dispatch 0 .reply 0 (.reply (.missing "x?"))) "x?" rfl
    (List.cons_ne_nil _ _) hlint rfl rfl rfl
  revert hloose
  decide

end Engine
end Courier
