import Courier.Proofs.Fallible
import Courier.Proofs.Program.Layout
import Courier.Program.Source

/-! The first bad statement of a document.
Statements are listed as they are written: each one before what is nested in it, its branch `then`
before its branch `else`. What is reported is the first statement of that list that is malformed, with
the way to it, and nothing that stands after it plays a part. -/
namespace Courier

namespace StatementDoc

def target : StatementDoc → String
  | .mk target .. => target

def value : StatementDoc → Value
  | .mk _ value .. => value

def reply : StatementDoc → Value
  | .mk _ _ reply .. => reply

def condition : StatementDoc → Value
  | .mk _ _ _ cond .. => cond

/-- The kinds of statement that a document sets. -/
def kinds (s : StatementDoc) : List StatementKind :=
  (if s.target = "" then [] else [.assign]) ++ (if s.reply.isNull then [] else [.reply]) ++
    (if s.condition.isNull then [] else [.cond])

/-- What is wrong with a statement itself, whatever is nested in it. -/
inductive Malformed (s : StatementDoc) : StatementError → Prop
  | oneKind (hk : s.kinds.length ≠ 1) : s.Malformed .oneKind
  | assign {e : ExprError} (hk : s.kinds = [.assign]) (he : Source.exprOf s.value = .error e) :
      s.Malformed (.assign s.target e)
  | reply {e : ExprError} (hk : s.kinds = [.reply]) (he : Source.exprOf s.reply = .error e) :
      s.Malformed (.reply e)
  | cond {e : ExprError} (hk : s.kinds = [.cond]) (he : Source.exprOf s.condition = .error e) :
      s.Malformed (.cond e)

/-- The branches of a statement. -/
def branches : StatementDoc → List (String × List StatementDoc)
  | .mk _ _ _ cond onTrue onFalse =>
    if cond.isNull then [] else [("then", onTrue), ("else", onFalse)]

theorem kinds_cases (s : StatementDoc) :
    s.kinds = [.assign] ∨ s.kinds = [.reply] ∨ s.kinds = [.cond] ∨ s.kinds.length ≠ 1 := by
  unfold kinds
  split_ifs <;> simp

end StatementDoc

/-- A way into a statement: branches, each with the place of a statement in it. -/
abbrev Way := List (String × Nat)

/-- A way as errors show it. -/
def Way.text : Way → String
  | [] => ""
  | (label, j) :: w => label ++ "[" ++ toString j ++ "]: " ++ Way.text w

/-- An error at the end of a way. -/
def StatementError.along (w : Way) (own : StatementError) : StatementError :=
  w.foldr (fun x e => .branch x.1 x.2 e) own

theorem StatementError.message_along (w : Way) (own : StatementError) :
    (own.along w).message = w.text ++ own.message := by
  induction w with
  | nil => exact (String.empty_append).symm
  | cons x w ih =>
    have hstep : (own.along (x :: w)).message =
        x.1 ++ "[" ++ toString x.2 ++ "]: " ++ (own.along w).message := rfl
    rw [hstep, ih, Way.text]
    simp only [String.append_assoc]

/-- The way from a statement to one nested in it, to any depth. -/
inductive StatementDoc.Leads : StatementDoc → Way → StatementDoc → Prop
  | here (s : StatementDoc) : Leads s [] s
  | into {s t x : StatementDoc} {label : String} {ds : List StatementDoc} {j : Nat} {w : Way}
      (hb : (label, ds) ∈ s.branches) (hj : ds[j]? = some t) (hw : Leads t w x) :
      Leads s ((label, j) :: w) x

/-- Extends the ways from one statement of a branch to ways from the statement with the branch. -/
def Way.extend (label : String) (j : Nat) (x : Way × StatementDoc) : Way × StatementDoc :=
  ((label, j) :: x.1, x.2)

mutual
/-- A statement and what is nested in it, in the order in which it is written, with the ways there. -/
def StatementDoc.listing : StatementDoc → List (Way × StatementDoc)
  | .mk target value reply cond onTrue onFalse =>
    ([], .mk target value reply cond onTrue onFalse) ::
      if cond.isNull then []
      else StatementDoc.branchListing "then" 0 onTrue ++ StatementDoc.branchListing "else" 0 onFalse
def StatementDoc.branchListing (label : String) (i : Nat) :
    List StatementDoc → List (Way × StatementDoc)
  | [] => []
  | s :: ss =>
    s.listing.map (Way.extend label i) ++ StatementDoc.branchListing label (i + 1) ss
end

namespace StatementDoc

theorem listing_eq (s : StatementDoc) :
    s.listing = ([], s) :: s.branches.flatMap fun b => branchListing b.1 0 b.2 := by
  obtain ⟨target, value, reply, cond, onTrue, onFalse⟩ := s
  simp only [listing, branches]
  split <;> simp

theorem mem_branchListing {label : String} {i : Nat} {ds : List StatementDoc} {w : Way}
    {x : StatementDoc} :
    (w, x) ∈ branchListing label i ds ↔
      ∃ j t v, ds[j]? = some t ∧ (v, x) ∈ t.listing ∧ w = (label, i + j) :: v := by
  induction ds generalizing i with
  | nil => simp [branchListing]
  | cons s ss ih =>
    rw [branchListing, List.mem_append, ih]
    constructor
    · rintro (h | ⟨j, t, v, hj, hv, rfl⟩)
      · obtain ⟨⟨v, y⟩, hv, heq⟩ := List.mem_map.mp h
        cases heq
        exact ⟨0, s, v, rfl, hv, rfl⟩
      · exact ⟨j + 1, t, v, hj, hv, by rw [Nat.add_right_comm, Nat.add_assoc]⟩
    · rintro ⟨j, t, v, hj, hv, rfl⟩
      cases j with
      | zero =>
        cases hj
        exact .inl (List.mem_map.mpr ⟨(v, x), hv, rfl⟩)
      | succ j => exact .inr ⟨j, t, v, hj, hv, by rw [Nat.add_right_comm, Nat.add_assoc]⟩

mutual
theorem leads_of_mem_listing (s : StatementDoc) (w : Way) (x : StatementDoc)
    (h : (w, x) ∈ s.listing) : s.Leads w x := by
  match s with
  | .mk target value reply cond onTrue onFalse =>
    rw [listing] at h
    rcases List.mem_cons.mp h with heq | h
    · cases heq
      exact .here _
    · split at h
      · cases h
      · next hcond =>
        have hbranches : branches (.mk target value reply cond onTrue onFalse) =
            [("then", onTrue), ("else", onFalse)] := if_neg hcond
        rcases List.mem_append.mp h with h | h
        · obtain ⟨j, t, v, hj, hv, rfl⟩ := mem_branchListing.mp h
          rw [Nat.zero_add]
          exact .into (by simp [hbranches]) hj (leads_of_mem_item onTrue j t hj v x hv)
        · obtain ⟨j, t, v, hj, hv, rfl⟩ := mem_branchListing.mp h
          rw [Nat.zero_add]
          exact .into (by simp [hbranches]) hj (leads_of_mem_item onFalse j t hj v x hv)
theorem leads_of_mem_item (ds : List StatementDoc) (j : Nat) (t : StatementDoc)
    (hj : ds[j]? = some t) (w : Way) (x : StatementDoc) (h : (w, x) ∈ t.listing) : t.Leads w x := by
  match ds, j with
  | [], _ => cases hj
  | s :: ss, 0 =>
    obtain rfl : s = t := Option.some.inj hj
    exact leads_of_mem_listing s w x h
  | s :: ss, j + 1 => exact leads_of_mem_item ss j t hj w x h
end

/-- The listing holds what is nested in a statement to any depth, and nothing else. -/
theorem mem_listing {s x : StatementDoc} {w : Way} : (w, x) ∈ s.listing ↔ s.Leads w x := by
  constructor
  · exact leads_of_mem_listing s w x
  · intro h
    induction h with
    | here s =>
      rw [listing_eq]
      exact List.mem_cons_self
    | @into s t x label ds j w hb hj _ ih =>
      rw [listing_eq]
      apply List.mem_cons_of_mem
      exact List.mem_flatMap.mpr
        ⟨(label, ds), hb, mem_branchListing.mpr ⟨j, t, w, hj, ih, by rw [Nat.zero_add]⟩⟩

/-- What is wrong with a statement itself, if anything. -/
def fault? (s : StatementDoc) : Option StatementError :=
  match s.kinds with
  | [.assign] => (errorOf? (Source.exprOf s.value)).map (.assign s.target)
  | [.reply] => (errorOf? (Source.exprOf s.reply)).map .reply
  | [.cond] => (errorOf? (Source.exprOf s.condition)).map .cond
  | _ => some .oneKind

theorem fault?_of_length {s : StatementDoc} (hk : s.kinds.length ≠ 1) :
    s.fault? = some .oneKind := by
  unfold fault?
  split
  case h_4 => rfl
  all_goals simp_all

theorem fault?_eq_some_iff {s : StatementDoc} {own : StatementError} :
    s.fault? = some own ↔ s.Malformed own := by
  constructor
  · intro h
    rcases s.kinds_cases with hk | hk | hk | hk
    · simp only [fault?, hk] at h
      obtain ⟨e, he, rfl⟩ := Option.map_eq_some_iff.mp h
      exact .assign hk (errorOf?_eq_some_iff.mp he)
    · simp only [fault?, hk] at h
      obtain ⟨e, he, rfl⟩ := Option.map_eq_some_iff.mp h
      exact .reply hk (errorOf?_eq_some_iff.mp he)
    · simp only [fault?, hk] at h
      obtain ⟨e, he, rfl⟩ := Option.map_eq_some_iff.mp h
      exact .cond hk (errorOf?_eq_some_iff.mp he)
    · rw [fault?_of_length hk] at h
      cases h
      exact .oneKind hk
  · intro h
    cases h with
    | oneKind hk => exact fault?_of_length hk
    | assign hk he => simp only [fault?, hk, he, errorOf?, Option.map_some]
    | reply hk he => simp only [fault?, hk, he, errorOf?, Option.map_some]
    | cond hk he => simp only [fault?, hk, he, errorOf?, Option.map_some]

end StatementDoc

/-- The error of a statement, as the one that the way starts at reports it. -/
def Way.fault? (x : Way × StatementDoc) : Option StatementError :=
  x.2.fault?.map (StatementError.along x.1)

theorem Way.fault?_nil (s : StatementDoc) : Way.fault? ([], s) = s.fault? := Option.map_id'

theorem Way.fault?_extend (label : String) (j : Nat) :
    Way.fault? ∘ Way.extend label j = fun x => (Way.fault? x).map (.branch label j) := by
  funext x
  simp only [Way.fault?, Way.extend, Function.comp_apply, Option.map_map]
  rfl

namespace Source

/-- Branches fail with the error of the first one, or else of the second one. -/
theorem errorOf?_branches (c : Expr) (onTrue onFalse : List StatementDoc) :
    errorOf? (do
        let t ← branchOf "then" 0 onTrue
        let e ← branchOf "else" 0 onFalse
        .ok (Stmt.cond c t e)) =
      (errorOf? (branchOf "then" 0 onTrue)).or (errorOf? (branchOf "else" 0 onFalse)) :=
  errorOf?_bind fun _ => (errorOf?_bind (r := none) fun _ => rfl).trans Option.or_none

/-- A branch fails with the error of its first statement, or else of those after it. -/
theorem errorOf?_branchOf_cons (label : String) (i : Nat) (s : StatementDoc)
    (ss : List StatementDoc) :
    errorOf? (branchOf label i (s :: ss)) =
      ((errorOf? (stmtOf s)).map (.branch label i)).or (errorOf? (branchOf label (i + 1) ss)) := by
  rw [← errorOf?_mapError, branchOf]
  exact errorOf?_bind fun _ => (errorOf?_bind (r := none) fun _ => rfl).trans Option.or_none

/-- A statement fails by itself, or else in its branches. -/
theorem errorOf?_stmtOf_mk (target : String) (value reply cond : Value)
    (onTrue onFalse : List StatementDoc) :
    errorOf? (stmtOf (.mk target value reply cond onTrue onFalse)) =
      (StatementDoc.mk target value reply cond onTrue onFalse).fault?.or
        (if cond.isNull then none
        else (errorOf? (branchOf "then" 0 onTrue)).or (errorOf? (branchOf "else" 0 onFalse))) := by
  have hset : (target != "") = !decide (target = "") := rfl
  have hbranches (c : Expr) := errorOf?_branches c onTrue onFalse
  rw [stmtOf, hset]
  by_cases ht : target = "" <;> cases hr : reply.isNull <;> cases hc : cond.isNull
  all_goals
    simp [StatementDoc.fault?, StatementDoc.kinds, StatementDoc.target, StatementDoc.value,
      StatementDoc.reply, StatementDoc.condition, ht, hr, hc, errorOf?_bind hbranches]
  all_goals rfl

mutual
/-- A statement fails with the first error of its listing. -/
theorem errorOf?_stmtOf (s : StatementDoc) :
    errorOf? (stmtOf s) = s.listing.findSome? Way.fault? := by
  match s with
  | .mk target value reply cond onTrue onFalse =>
    have ht := errorOf?_branchOf "then" 0 onTrue
    have hf := errorOf?_branchOf "else" 0 onFalse
    rw [errorOf?_stmtOf_mk, ht, hf, ← List.findSome?_append, StatementDoc.listing,
      List.findSome?_cons, Way.fault?_nil]
    cases (StatementDoc.mk target value reply cond onTrue onFalse).fault? with
    | some own => rfl
    | none =>
      rw [Option.none_or]
      split <;> rfl
theorem errorOf?_branchOf (label : String) (i : Nat) (ds : List StatementDoc) :
    errorOf? (branchOf label i ds) =
      (StatementDoc.branchListing label i ds).findSome? Way.fault? := by
  match ds with
  | [] => rfl
  | s :: ss =>
    have hs := errorOf?_stmtOf s
    have hss := errorOf?_branchOf label (i + 1) ss
    rw [errorOf?_branchOf_cons, hs, hss, StatementDoc.branchListing, List.findSome?_append,
      List.findSome?_map, Way.fault?_extend, List.map_findSome?]
    rfl
end

/-- A statement of a program document: the number of the top-level statement it is in, the way from
there, and the statement itself. -/
structure Occurrence where
  index : Nat
  way : Way
  doc : StatementDoc

/-- The statements of a program document in the order in which they are written. -/
def occurrences (i : Nat) : List StatementDoc → List Occurrence
  | [] => []
  | s :: ss => s.listing.map (fun x => ⟨i, x.1, x.2⟩) ++ occurrences (i + 1) ss

namespace Occurrence

def fault? (x : Occurrence) : Option (Nat × StatementError) :=
  (Way.fault? (x.way, x.doc)).map fun e => (x.index, e)

theorem mem_occurrences {i : Nat} {ds : List StatementDoc} {x : Occurrence} :
    x ∈ occurrences i ds ↔ ∃ j s, ds[j]? = some s ∧ x.index = i + j ∧ s.Leads x.way x.doc := by
  induction ds generalizing i with
  | nil => simp [occurrences]
  | cons s ss ih =>
    rw [occurrences, List.mem_append, ih]
    constructor
    · rintro (h | ⟨j, t, hj, hi, hw⟩)
      · obtain ⟨⟨w, y⟩, hw, rfl⟩ := List.mem_map.mp h
        exact ⟨0, s, rfl, rfl, StatementDoc.mem_listing.mp hw⟩
      · exact ⟨j + 1, t, hj, by omega, hw⟩
    · rintro ⟨j, t, hj, hi, hw⟩
      cases j with
      | zero =>
        obtain rfl : s = t := Option.some.inj hj
        left
        apply List.mem_map.mpr
        refine ⟨(x.way, x.doc), StatementDoc.mem_listing.mpr hw, ?_⟩
        obtain ⟨index, way, doc⟩ := x
        obtain rfl : index = i := hi
        rfl
      | succ j => exact .inr ⟨j, t, hj, by omega, hw⟩

end Occurrence

/-- The statements of a program fail with the first error of all their listings. -/
theorem errorOf?_bodyOf (i : Nat) (ds : List StatementDoc) :
    errorOf? (bodyOf i ds) = (occurrences i ds).findSome? Occurrence.fault? := by
  induction ds generalizing i with
  | nil => rfl
  | cons s ss ih =>
    have hfirst : errorOf? ((stmtOf s).mapError fun e => (i, e)) =
        (s.listing.map fun x => (⟨i, x.1, x.2⟩ : Occurrence)).findSome? Occurrence.fault? := by
      rw [errorOf?_mapError, errorOf?_stmtOf, List.map_findSome?, List.findSome?_map]
      rfl
    rw [bodyOf, occurrences, List.findSome?_append, ← hfirst, ← ih]
    apply errorOf?_bind
    intro a
    exact (errorOf?_bind (r := none) fun _ => rfl).trans Option.or_none

/-! The compiler adds statements to blocks and keeps errors on the side. -/

mutual
/-- Adds a statement to a block, and tells what was wrong. Both branches of a condition are gone
through to their end, whatever was wrong with their statements, and the first error is kept. -/
def emit (block : List Stmt) : StatementDoc → List Stmt × Option StatementError
  | .mk target value reply cond onTrue onFalse =>
    match target != "", !reply.isNull, !cond.isNull with
    | true, false, false =>
      match exprOf value with
      | .error e => (block, some (.assign target e))
      | .ok v => (block ++ [.assign target v], none)
    | false, true, false =>
      match exprOf reply with
      | .error e => (block, some (.reply e))
      | .ok v => (block ++ [.reply v], none)
    | false, false, true =>
      match exprOf cond with
      | .error e => (block, some (.cond e))
      | .ok c =>
        let t := emitBranch "then" 0 ([], none) onTrue
        let e := emitBranch "else" 0 ([], t.2) onFalse
        (block ++ [.cond c t.1 e.1], e.2)
    | _, _, _ => (block, some .oneKind)
/-- Adds the statements of a branch. The error is the one that was kept before, if there is one. -/
def emitBranch (label : String) (j : Nat) (done : List Stmt × Option StatementError) :
    List StatementDoc → List Stmt × Option StatementError
  | [] => done
  | s :: ss =>
    let one := emit done.1 s
    emitBranch label (j + 1) (one.1, done.2.or (one.2.map (.branch label j))) ss
end

/-- Adds the statements of a program, up to the first one with an error. -/
def emitBody (i : Nat) (block : List Stmt) :
    List StatementDoc → Except (Nat × StatementError) (List Stmt)
  | [] => .ok block
  | s :: ss =>
    match emit block s with
    | (_, some e) => .error (i, e)
    | (block, none) => emitBody (i + 1) block ss

mutual
/-- What is added is what the statement is read as, and what was wrong is why it is not read. -/
theorem emit_spec (s : StatementDoc) (block : List Stmt) :
    (emit block s).2 = errorOf? (stmtOf s) ∧
      ∀ t, stmtOf s = .ok t → (emit block s).1 = block ++ [t] := by
  match s with
  | .mk target value reply cond onTrue onFalse =>
    rw [emit, stmtOf]
    generalize (target != "") = setsTarget, (!reply.isNull) = setsReply, (!cond.isNull) = setsCond
    match setsTarget, setsReply, setsCond with
    | true, false, false =>
      cases exprOf value with
      | error e => exact ⟨rfl, nofun⟩
      | ok v => exact ⟨rfl, fun t ht => by cases ht; rfl⟩
    | false, true, false =>
      cases exprOf reply with
      | error e => exact ⟨rfl, nofun⟩
      | ok v => exact ⟨rfl, fun t ht => by cases ht; rfl⟩
    | false, false, true =>
      cases exprOf cond with
      | error e => exact ⟨rfl, nofun⟩
      | ok c =>
        -- The branch else starts with the error that was kept in the branch then.
        obtain ⟨hterr, htok⟩ := emitBranch_spec "then" onTrue 0 ([], none)
        obtain ⟨hferr, hfok⟩ := emitBranch_spec "else" onFalse 0
          ([], (emitBranch "then" 0 ([], none) onTrue).2)
        constructor
        · apply hferr.trans
          rw [hterr, Option.none_or]
          exact (errorOf?_branches c onTrue onFalse).symm
        · intro t ht
          obtain ⟨b, hb, ht⟩ := bind_eq_ok (x := branchOf "then" 0 onTrue) ht
          obtain ⟨b', hb', ht⟩ := bind_eq_ok ht
          cases ht
          simp only [htok b hb, hfok b' hb', List.nil_append]
    | true, true, true | true, true, false | true, false, true | false, true, true
    | false, false, false => exact ⟨rfl, nofun⟩
/-- An error that was kept before stays, and otherwise the first one of the branch is kept. -/
theorem emitBranch_spec (label : String) (ds : List StatementDoc) (j : Nat)
    (done : List Stmt × Option StatementError) :
    (emitBranch label j done ds).2 = done.2.or (errorOf? (branchOf label j ds)) ∧
      ∀ b, branchOf label j ds = .ok b → (emitBranch label j done ds).1 = done.1 ++ b := by
  match ds with
  | [] =>
    constructor
    · exact Option.or_none.symm
    · intro b hb
      cases hb
      exact (List.append_nil _).symm
  | s :: ss =>
    obtain ⟨hone, hadded⟩ := emit_spec s done.1
    obtain ⟨hrest, hblock⟩ := emitBranch_spec label ss (j + 1)
      ((emit done.1 s).1, done.2.or ((emit done.1 s).2.map (.branch label j)))
    rw [emitBranch]
    constructor
    · rw [hrest, errorOf?_branchOf_cons, hone, Option.or_assoc]
    · intro b hb
      obtain ⟨t, ht, hb⟩ := bind_eq_ok hb
      obtain ⟨b', hb', hb⟩ := bind_eq_ok hb
      cases hb
      rw [hblock b' hb', hadded t (mapError_eq_ok ht), List.append_assoc, List.singleton_append]
end

/-- However the compiler goes on after an error, what it makes of a program is what its statements are
read as. -/
theorem emitBody_eq (i : Nat) (block : List Stmt) (ds : List StatementDoc) :
    emitBody i block ds = (bodyOf i ds).map (block ++ ·) := by
  induction ds generalizing i block with
  | nil => exact congrArg Except.ok (List.append_nil _).symm
  | cons s ss ih =>
    obtain ⟨hone, hadded⟩ := emit_spec s block
    rw [emitBody, bodyOf]
    generalize emit block s = done at hone hadded
    obtain ⟨added, err⟩ := done
    cases hs : stmtOf s with
    | error e =>
      obtain rfl : err = some e := hone.trans (congrArg errorOf? hs)
      rfl
    | ok t =>
      obtain rfl : err = none := hone.trans (congrArg errorOf? hs)
      obtain rfl : added = block ++ [t] := hadded t hs
      simp only [ih]
      cases bodyOf (i + 1) ss with
      | error e => rfl
      | ok b => exact congrArg Except.ok (List.append_assoc ..)

/-- The program of a document that has the shape of one. -/
def compile (file : String) (d : ProgramDoc) : Except ParseError Program :=
  match draftOf file d with
  | .error (i, c) => .error ⟨file, i, c⟩
  | .ok draft => draft.build.mapError fun e => ⟨file, -1, .build e⟩

/-- The name of a document, which may be the one of its file. -/
def nameOf (file : String) (d : ProgramDoc) : String :=
  if d.name = "" ∧ file ≠ "" then Path.stem file else d.name

/-- A text in which a document is written is read as the program of the document. -/
theorem parse_eq_compile {file text : String} {root : Keyed Value} {d : ProgramDoc}
    (hload : Yaml.load text = .ok (some root)) (hshape : Document.readProgram root = ⟨d, []⟩) :
    parse file text = compile file d := by
  simp only [parse, compile, hload, hshape, List.isEmpty_nil, if_true]
  cases draftOf file d with
  | error e => rfl
  | ok draft =>
    cases hbuild : draft.build with
    | error e => simp only [hbuild, Except.mapError]
    | ok p => simp only [hbuild, Except.mapError]

section

variable {file : String} {d : ProgramDoc} {input : Schema}

theorem draftOf_eq (hname : nameOf file d ≠ "") (hinput : Schema.ofDecls d.input = .ok input) :
    draftOf file d =
      ((bodyOf 0 d.statements).mapError fun e => ((e.1 : Int), Cause.statement e.2)).map
        fun body => ⟨nameOf file d, d.version, file, some input, body⟩ := by
  have hdraft : draftOf file d =
      if nameOf file d = "" then .error (-1, .unnamed)
      else (do
        let input ← (Schema.ofDecls d.input).mapError fun e => ((-1 : Int), Cause.input e)
        let body ← (bodyOf 0 d.statements).mapError fun e => ((e.1 : Int), Cause.statement e.2)
        .ok ⟨nameOf file d, d.version, file, some input, body⟩) := rfl
  rw [hdraft, if_neg hname, hinput]
  cases bodyOf 0 d.statements <;> rfl

theorem compile_of_body_error (hname : nameOf file d ≠ "")
    (hinput : Schema.ofDecls d.input = .ok input) {i : Nat} {e : StatementError}
    (hbody : bodyOf 0 d.statements = .error (i, e)) :
    compile file d = .error ⟨file, i, .statement e⟩ := by
  rw [compile, draftOf_eq hname hinput, hbody]
  rfl

/-- Statements that are all read make a program, unless there are none. -/
theorem compile_of_body (hname : nameOf file d ≠ "") (hinput : Schema.ofDecls d.input = .ok input)
    {body : Block} (hbody : bodyOf 0 d.statements = .ok body) :
    (∃ p, compile file d = .ok p) ↔ body ≠ [] := by
  have hcompile : compile file d =
      (Draft.build ⟨nameOf file d, d.version, file, some input, body⟩).mapError
        fun e => ⟨file, -1, .build e⟩ := by
    rw [compile, draftOf_eq hname hinput, hbody]
    rfl
  rw [hcompile]
  constructor
  · rintro ⟨p, hp⟩
    exact (Draft.of_build_eq_ok (mapError_eq_ok hp)).2.2
  · intro hne
    rw [Draft.build_eq_ok hname hne]
    exact ⟨_, rfl⟩

end

theorem body_ne_nil {i : Nat} {ds : List StatementDoc} {body : Block} (h : bodyOf i ds = .ok body) :
    body ≠ [] ↔ ds ≠ [] := by
  cases ds with
  | nil =>
    cases h
    simp
  | cons s ss =>
    obtain ⟨t, -, h⟩ := bind_eq_ok h
    obtain ⟨b, -, h⟩ := bind_eq_ok h
    cases h
    simp

theorem Occurrence.fault?_eq_some_iff {x : Occurrence} {r : Nat × StatementError} :
    x.fault? = some r ↔ ∃ own, x.doc.Malformed own ∧ r = (x.index, own.along x.way) := by
  constructor
  · intro h
    obtain ⟨e, he, rfl⟩ := Option.map_eq_some_iff.mp h
    obtain ⟨own, hown, rfl⟩ := Option.map_eq_some_iff.mp he
    exact ⟨own, StatementDoc.fault?_eq_some_iff.mp hown, rfl⟩
  · rintro ⟨own, hown, rfl⟩
    have hfault := StatementDoc.fault?_eq_some_iff.mpr hown
    simp only [Occurrence.fault?, Way.fault?, hfault, Option.map_some]

theorem Occurrence.fault?_eq_none_iff {x : Occurrence} :
    x.fault? = none ↔ ∀ own, ¬ x.doc.Malformed own := by
  rw [← Option.not_isSome_iff_eq_none, Option.isSome_iff_exists, not_exists]
  constructor
  · intro h own hown
    exact h (x.index, own.along x.way) (fault?_eq_some_iff.mpr ⟨own, hown, rfl⟩)
  · intro h r hr
    obtain ⟨own, hown, -⟩ := fault?_eq_some_iff.mp hr
    exact h own hown

/-- Statement `x` is in a document: below its top-level statement number `i`, along the way `w`. -/
def Contains (d : ProgramDoc) (i : Nat) (w : Way) (x : StatementDoc) : Prop :=
  ∃ s, d.statements[i]? = some s ∧ s.Leads w x

/-- The first statement of a document that is malformed, and what is wrong with it. -/
def FirstFault (d : ProgramDoc) (x : Occurrence) (own : StatementError) : Prop :=
  x.doc.Malformed own ∧ ∃ before after,
    occurrences 0 d.statements = before ++ x :: after ∧ ∀ y ∈ before, ∀ e, ¬ y.doc.Malformed e

theorem mem_occurrences_iff {d : ProgramDoc} {x : Occurrence} :
    x ∈ occurrences 0 d.statements ↔ Contains d x.index x.way x.doc := by
  rw [Occurrence.mem_occurrences]
  constructor
  · rintro ⟨j, s, hj, hi, hw⟩
    rw [Nat.zero_add] at hi
    exact ⟨s, hi ▸ hj, hw⟩
  · rintro ⟨s, hj, hw⟩
    exact ⟨x.index, s, hj, (Nat.zero_add _).symm, hw⟩

/-- The error of the statements is the one of the first malformed statement. -/
theorem bodyOf_eq_error_iff {d : ProgramDoc} {r : Nat × StatementError} :
    bodyOf 0 d.statements = .error r ↔
      ∃ x own, FirstFault d x own ∧ r = (x.index, own.along x.way) := by
  rw [← errorOf?_eq_some_iff, errorOf?_bodyOf, List.findSome?_eq_some_iff]
  constructor
  · rintro ⟨before, x, after, hlist, hx, hbefore⟩
    obtain ⟨own, hown, hr⟩ := Occurrence.fault?_eq_some_iff.mp hx
    have hsound : ∀ y ∈ before, ∀ e, ¬ y.doc.Malformed e := fun y hy =>
      Occurrence.fault?_eq_none_iff.mp (hbefore y hy)
    exact ⟨x, own, ⟨hown, before, after, hlist, hsound⟩, hr⟩
  · rintro ⟨x, own, ⟨hown, before, after, hlist, hsound⟩, hr⟩
    exact ⟨before, x, after, hlist, Occurrence.fault?_eq_some_iff.mpr ⟨own, hown, hr⟩,
      fun y hy => Occurrence.fault?_eq_none_iff.mpr (hsound y hy)⟩

/-- A document with a malformed statement has a first one. -/
theorem exists_firstFault {d : ProgramDoc} {i : Nat} {w : Way} {x : StatementDoc}
    {own : StatementError} (hx : Contains d i w x) (hown : x.Malformed own) :
    ∃ y e, FirstFault d y e := by
  have hmem : (⟨i, w, x⟩ : Occurrence) ∈ occurrences 0 d.statements := mem_occurrences_iff.mpr hx
  cases hbody : bodyOf 0 d.statements with
  | error r =>
    obtain ⟨y, e, hfirst, -⟩ := bodyOf_eq_error_iff.mp hbody
    exact ⟨y, e, hfirst⟩
  | ok body =>
    have hnone := errorOf?_bodyOf 0 d.statements
    rw [hbody] at hnone
    have hall := List.findSome?_eq_none_iff.mp hnone.symm
    exact absurd hown (Occurrence.fault?_eq_none_iff.mp (hall _ hmem) own)

theorem message_statement_along (file : String) (i : Nat) (w : Way) (own : StatementError) :
    ParseError.message ⟨file, i, .statement (own.along w)⟩ =
      (if file = "" then "<input>" else file) ++ ": statement " ++ toString i ++ ": " ++
        (w.text ++ own.message) := by
  have hindex : ¬ (i : Int) < 0 := Int.not_lt.mpr (Int.natCast_nonneg i)
  have hnumber : toString (i : Int) = toString i := rfl
  have hcause : (Cause.statement (own.along w)).message = w.text ++ own.message :=
    StatementError.message_along w own
  simp only [ParseError.message, if_neg hindex, hnumber, hcause]

/-- A named document with good input types makes no program just when one of its statements is
malformed, at any depth, or it has none. The error is then the one of the first malformed statement as
they are written, with the way to it, whatever stands after that. Compiling blocks to their end and
keeping errors on the side comes to the same. -/
theorem compile_first_fault {file : String} {d : ProgramDoc} {input : Schema}
    (hname : nameOf file d ≠ "") (hinput : Schema.ofDecls d.input = .ok input) :
    (∀ text root, Yaml.load text = .ok (some root) → Document.readProgram root = ⟨d, []⟩ →
      parse file text = compile file d) ∧
    ((∃ err, compile file d = .error err) ↔
      (∃ i w x own, Contains d i w x ∧ x.Malformed own) ∨ d.statements = []) ∧
    (∀ x, x ∈ occurrences 0 d.statements ↔ Contains d x.index x.way x.doc) ∧
    ((∃ i w x own, Contains d i w x ∧ x.Malformed own) → ∃ x own, FirstFault d x own) ∧
    (∀ x own, FirstFault d x own →
      compile file d = .error ⟨file, x.index, .statement (own.along x.way)⟩ ∧
      ParseError.message ⟨file, x.index, .statement (own.along x.way)⟩ =
        (if file = "" then "<input>" else file) ++ ": statement " ++ toString x.index ++ ": " ++
          (x.way.text ++ own.message)) ∧
    emitBody 0 [] d.statements = bodyOf 0 d.statements := by
  have hreport : ∀ x own, FirstFault d x own →
      compile file d = .error ⟨file, x.index, .statement (own.along x.way)⟩ := fun x own hfirst =>
    compile_of_body_error hname hinput (bodyOf_eq_error_iff.mpr ⟨x, own, hfirst, rfl⟩)
  refine ⟨?_, ?_, fun _ => mem_occurrences_iff, ?_, ?_, ?_⟩
  · intro text root hload hshape
    exact parse_eq_compile hload hshape
  · constructor
    · rintro ⟨err, herr⟩
      cases hbody : bodyOf 0 d.statements with
      | error r =>
        left
        obtain ⟨x, own, ⟨hown, before, after, hlist, -⟩, -⟩ := bodyOf_eq_error_iff.mp hbody
        have hmem : x ∈ occurrences 0 d.statements := by
          rw [hlist]
          exact List.mem_append_right _ List.mem_cons_self
        exact ⟨x.index, x.way, x.doc, own, mem_occurrences_iff.mp hmem, hown⟩
      | ok body =>
        right
        by_contra hne
        obtain ⟨p, hp⟩ := (compile_of_body hname hinput hbody).mpr ((body_ne_nil hbody).mpr hne)
        rw [hp] at herr
        cases herr
    · rintro (⟨i, w, x, own, hx, hown⟩ | hempty)
      · obtain ⟨y, e, hfirst⟩ := exists_firstFault hx hown
        exact ⟨_, hreport y e hfirst⟩
      · have hbody : bodyOf 0 d.statements = .ok [] := by
          rw [hempty]
          rfl
        cases hcompile : compile file d with
        | error err => exact ⟨err, rfl⟩
        | ok p => exact absurd rfl ((compile_of_body hname hinput hbody).mp ⟨p, hcompile⟩)
  · rintro ⟨i, w, x, own, hx, hown⟩
    exact exists_firstFault hx hown
  · intro x own hfirst
    exact ⟨hreport x own hfirst, message_statement_along file x.index x.way own⟩
  · rw [emitBody_eq]
    cases bodyOf 0 d.statements <;> rfl

/-- The malformed statement in the branches comes first as they are written: neither the one in the
other branch nor the one after the condition is reported. -/
theorem compile_first_fault_nested :
    let good : StatementDoc := .mk "" .null (.text "hi") .null [] []
    let bad : StatementDoc := .mk "x" (.record [("var", .null)]) .null .null [] []
    let inner : StatementDoc := .mk "" .null .null (.bool true) [] [good, bad]
    let outer : StatementDoc := .mk "" .null .null (.bool true) [good, inner] [bad]
    let d : ProgramDoc := ⟨"p", "", [], [good, outer, bad]⟩
    let way : Way := [("then", 1), ("else", 1)]
    let own : StatementError := .assign "x" .varName
    nameOf "" d ≠ "" ∧ Schema.ofDecls d.input = .ok [] ∧ FirstFault d ⟨1, way, bad⟩ own ∧
      compile "" d = .error ⟨"", 1, .statement (own.along way)⟩ ∧
      ParseError.message ⟨"", 1, .statement (own.along way)⟩ =
        "<input>: statement 1: then[1]: else[1]: assign x: invalid expression: var needs a name" := by
  intro good bad inner outer d way own
  have hname : nameOf "" d ≠ "" := by decide
  have hinput : Schema.ofDecls d.input = .ok [] := rfl
  have hfirst : FirstFault d ⟨1, way, bad⟩ own := by
    refine ⟨.assign rfl rfl,
      [⟨0, [], good⟩, ⟨1, [], outer⟩, ⟨1, [("then", 0)], good⟩, ⟨1, [("then", 1)], inner⟩,
        ⟨1, [("then", 1), ("else", 0)], good⟩],
      [⟨1, [("else", 0)], bad⟩, ⟨2, [], bad⟩], rfl, ?_⟩
    simp only [List.forall_mem_cons, ← Occurrence.fault?_eq_none_iff]
    exact ⟨rfl, rfl, rfl, rfl, rfl, nofun⟩
  obtain ⟨hcompile, hmessage⟩ :=
    (compile_first_fault hname hinput).2.2.2.2.1 ⟨1, way, bad⟩ own hfirst
  refine ⟨hname, hinput, hfirst, hcompile, hmessage.trans ?_⟩
  decide

end Source
end Courier
