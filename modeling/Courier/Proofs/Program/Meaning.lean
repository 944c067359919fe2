import Courier.Proofs.Program.Interpreter
import Courier.Proofs.Program.Layout
import Courier.Proofs.Run.Step

/-! Laying out a block keeps its meaning.
A walk through nodes that a block is threaded along does what running the block does, and then goes
on at the continuation. So a request to a built program ends as running the body ends. -/
namespace Courier

/-- The node at `cur` belongs to the statement with number `k`. -/
def Graph.Belongs (g : Graph) (cur : Int) (k : Nat) (s : Stmt) : Prop :=
  ∃ n, g.node? cur = some n ∧ n.parent = k ∧ g.statementText? n = some s.text

namespace Block

/-- A walk that ended at context `c` for the reason `halt`. -/
def StopsAs (g : Graph) (limit : Nat) (c : Context) (stop : Option WalkError) : Halt → Prop
  | .interrupted i => stop = some (.interrupted i)
  | .budget k s => g.Belongs c.cursor k s ∧ stop = some (.stepLimit c.cursor limit)
  | .fault k s err => g.Belongs c.cursor k s ∧ ∃ kind, stop = some (.dispatch c.cursor kind k err)

/-- The walk from `cur` does what the run says: it goes on at `next` in the same state, or it stops
for the same reason. -/
def Follows (e : Engine) (g : Graph) (look : Interrupts) (c : Context) (cur next : Int) :
    Except Stopped Env → Prop
  | .ok s => ∃ d : Context, d.env = s ∧ d.program = c.program ∧
      (e.walkFrom g look (e.maxSteps - c.steps) cur c).ending =
        (e.walkFrom g look (e.maxSteps - d.steps) next d).ending
  | .error x => ∃ (d : Context) (stop : Option WalkError), d.env = x.env ∧ d.program = c.program ∧
      (e.walkFrom g look (e.maxSteps - c.steps) cur c).ending = (d, stop) ∧
      StopsAs g e.maxSteps d stop x.halt

variable {e : Engine} {g : Graph} {look : Interrupts}

theorem Follows.here (c : Context) (next : Int) : Follows e g look c next next (.ok c.env) :=
  ⟨c, rfl, rfl, rfl⟩

/-- Walks follow one after the other. -/
theorem Follows.bind {c : Context} {cur mid next : Int} {r : Except Stopped Env}
    {f : Env → Except Stopped Env} (h : Follows e g look c cur mid r)
    (hf : ∀ d : Context, d.program = c.program → Follows e g look d mid next (f d.env)) :
    Follows e g look c cur next (r >>= f) := by
  cases r with
  | error x => exact h
  | ok s =>
    obtain ⟨d, rfl, hprog, hwalk⟩ := h
    -- The second walk starts where the first one has come to, with what is left of the budget.
    change Follows e g look c cur next (f d.env)
    have hd := hf d hprog
    cases hr : f d.env with
    | ok s =>
      rw [hr] at hd
      obtain ⟨d', henv, hprog', hwalk'⟩ := hd
      exact ⟨d', henv, hprog'.trans hprog, hwalk.trans hwalk'⟩
    | error x =>
      rw [hr] at hd
      obtain ⟨d', stop, henv, hprog', hwalk', hstop⟩ := hd
      exact ⟨d', stop, henv, hprog'.trans hprog, hwalk.trans hwalk', hstop⟩

/-- Arriving at a node and entering its statement are called off and out of budget together. What is
left to compare is the visit of the node with the body of the statement. -/
theorem follows_enter (he : e.Ordinary) {c : Context} {cur next : Int} {n : Node} {i : Nat}
    {stmt : Stmt} {body : Env → Except Stopped Env} (hn : g.node? cur = some n)
    (hb : g.Belongs cur i stmt) (hi : n.parent = i)
    (hok : ∀ d, Visitor.visit n (c.arrive cur) = .ok d →
      Follows e g look d (n.successor d.decision) next (body (c.arrive cur).env))
    (herr : ∀ err, Visitor.visit n (c.arrive cur) = .error err →
      body (c.arrive cur).env = .error ⟨(c.arrive cur).env, .fault i stmt err⟩) :
    Follows e g look c cur next (enter look e.maxSteps i stmt c.env >>= body) := by
  have hstep := Engine.walkFrom_ending_step he hn look c
  have hsteps : c.env.steps = c.steps := rfl
  unfold enter
  rw [hsteps]
  cases hlook : look c.steps with
  | some x =>
    rw [hlook] at hstep
    exact ⟨c, _, rfl, rfl, hstep, rfl⟩
  | none =>
    rw [hlook] at hstep
    by_cases hlt : c.steps < e.maxSteps
    · simp only [hlt, ↓reduceIte] at hstep ⊢
      -- Both have counted the step and are about to do the same thing.
      change Follows e g look c cur next (body (c.arrive cur).env)
      cases hvisit : Visitor.visit n (c.arrive cur) with
      | error err =>
        rw [hvisit] at hstep
        rw [herr err hvisit]
        exact ⟨c.arrive cur, _, rfl, rfl, hstep, hb, n.kind, by rw [hi]; rfl⟩
      | ok d =>
        rw [hvisit] at hstep
        have hprog : d.program = c.program := (Visitor.visit_frame hvisit).2.1
        have hd := hok d hvisit
        cases hr : body (c.arrive cur).env with
        | ok s =>
          rw [hr] at hd
          obtain ⟨d', henv, hprog', hwalk⟩ := hd
          exact ⟨d', henv, hprog'.trans hprog, hstep.trans hwalk⟩
        | error x =>
          rw [hr] at hd
          obtain ⟨d', stop, henv, hprog', hwalk, hstop⟩ := hd
          exact ⟨d', stop, henv, hprog'.trans hprog, hstep.trans hwalk, hstop⟩
    · simp only [hlt, ↓reduceIte] at hstep ⊢
      exact ⟨{ c with cursor := cur }, _, rfl, rfl, hstep, hb, rfl⟩

/-- A statement without branches does what visiting its node does. -/
theorem follows_leaf (he : e.Ordinary) {c : Context} {cur next : Int} {n : Node} {i : Nat}
    {stmt : Stmt} {body : Env → Except Stopped Env} (hn : g.node? cur = some n)
    (hb : g.Belongs cur i stmt) (hi : n.parent = i)
    (hnext : ∀ decision, n.successor decision = next)
    (hbody : body (c.arrive cur).env = attempt i stmt (c.arrive cur).env
      ((Visitor.visit n (c.arrive cur)).map Context.env)) :
    Follows e g look c cur next (enter look e.maxSteps i stmt c.env >>= body) := by
  refine follows_enter he hn hb hi (fun d hd => ?_) (fun err herr => ?_)
  · rw [hbody, hd, hnext]
    exact .here d next
  · rw [hbody, herr]
    rfl

/-- A node that belongs to a statement of its kind finds it. -/
theorem statementOf_eq {c : Context} {n : Node} {file : String} {i : Nat} {stmt : Stmt}
    (hg : c.graph = some g) (hi : n.parent = i)
    (hs : g.statement? i = some (stmt.statement file i))
    (hk : (stmt.statement file i).kind = Visitor.wantedKind n.kind) :
    Visitor.statementOf c n = .ok (stmt.statement file i) := by
  simp only [Visitor.statementOf, hg, hi, hs, hk, ↓reduceIte]

theorem belongs_of_statement {cur : Int} {n : Node} {file : String} {i : Nat} {stmt : Stmt}
    (hn : g.node? cur = some n) (hi : n.parent = i)
    (hs : g.statement? i = some (stmt.statement file i)) : g.Belongs cur i stmt := by
  refine ⟨n, hn, hi, ?_⟩
  rw [Graph.statementText?, hi, hs]
  cases stmt <;> rfl

mutual
theorem stmtThreaded_follows (he : e.Ordinary) {file : String} (stmt : Stmt) (i : Nat)
    (c : Context) (cur next : Int) (hg : c.graph = some g)
    (ht : StmtThreaded g file i cur next stmt) :
    Follows e g look c cur next (runStmt look e.maxSteps i c.env stmt) := by
  have hga : (c.arrive cur).graph = some g := hg
  cases stmt with
  | assign target value =>
    obtain ⟨hn, hs⟩ := ht
    have hfound : Visitor.statementOf (c.arrive cur) (.assign cur i next) = .ok _ :=
      statementOf_eq hga rfl hs rfl
    rw [runStmt]
    refine follows_leaf he hn (belongs_of_statement hn rfl hs) rfl (fun _ => rfl) ?_
    rw [Expr.eval_env, Visitor.visit_assign hfound rfl]
    simp only [Stmt.statement, Context.env_bind]
    -- How a name is bound no longer matters, only that both bind it in the same context.
    generalize (c.arrive cur).bind target = bound
    cases value.eval (c.arrive cur) with
    | error x => rfl
    | ok v =>
      change attempt i _ _ (((bound v).map Context.env).mapError _) =
        attempt i _ _ (((bound v).mapError _).map Context.env)
      cases bound v <;> rfl
  | reply value =>
    obtain ⟨hn, hs⟩ := ht
    have hfound : Visitor.statementOf (c.arrive cur) (.reply cur i next) = .ok _ :=
      statementOf_eq hga rfl hs rfl
    rw [runStmt]
    refine follows_leaf he hn (belongs_of_statement hn rfl hs) rfl (fun _ => rfl) ?_
    rw [Expr.eval_env, Visitor.visit_reply hfound rfl]
    simp only [Stmt.statement]
    cases value.eval (c.arrive cur) <;> rfl
  | cond test t f =>
    obtain ⟨onTrue, onFalse, hn, hs, htrue, hfalse⟩ := ht
    have hfound : Visitor.statementOf (c.arrive cur) (.branch cur i onTrue onFalse) = .ok _ :=
      statementOf_eq hga rfl hs rfl
    have hvisit := Visitor.visit_branch hfound rfl
    simp only [Stmt.statement] at hvisit
    rw [runStmt]
    refine follows_enter he hn (belongs_of_statement hn rfl hs) rfl (fun d hd => ?_)
      (fun err herr => ?_)
    · rw [hvisit] at hd
      obtain ⟨v, hv, hd⟩ := bind_eq_ok hd
      cases hd
      rw [Expr.eval_env, mapError_eq_ok hv]
      -- The decision that was just recorded is the one the walk and the run both go by.
      change Follows e g look _ (if v.truthy then onTrue else onFalse) next
        (if v.truthy then runBlock look e.maxSteps (i + 1) _ t
          else runBlock look e.maxSteps (i + 1 + count t) _ f)
      split_ifs
      · exact block_follows he t (i + 1) { c.arrive cur with decision := v.truthy } onTrue next
          hga htrue
      · exact block_follows he f (i + 1 + count t) { c.arrive cur with decision := v.truthy }
          onFalse next hga hfalse
    · rw [hvisit] at herr
      rw [Expr.eval_env]
      cases hv : test.eval (c.arrive cur) with
      | error x =>
        rw [hv] at herr
        cases herr
        rfl
      | ok v =>
        rw [hv] at herr
        cases herr
/-- The walk through the nodes of a block does what running the block does. -/
theorem block_follows (he : e.Ordinary) {file : String} (b : List Stmt) (i : Nat) (c : Context)
    (cur next : Int) (hg : c.graph = some g) (ht : Threaded g file i cur next b) :
    Follows e g look c cur next (runBlock look e.maxSteps i c.env b) := by
  cases b with
  | nil =>
    rw [Threaded] at ht
    exact ht ▸ .here c cur
  | cons stmt b =>
    obtain ⟨mid, hstmt, hrest⟩ := ht
    rw [runBlock]
    -- The rest of the block is walked in the graph of the same program.
    refine (stmtThreaded_follows he stmt i c cur mid hg hstmt).bind fun d hprog => ?_
    have hgd : d.graph = some g := by rw [Context.graph, hprog]; exact hg
    exact block_follows he b (i + stmtCount stmt) d mid next hgd hrest
end

end Block

namespace Execution

/-- What a request shows of the state of a run, in its context and in its result. -/
structure Shows (x : Execution) (r : Result) (s : Env) : Prop where
  bindings : x.context.bindings = s.bindings
  assigned : x.context.assigned = s.assigned
  reply : x.context.reply = s.reply
  steps : x.context.steps = s.steps
  result : r.bindings = some s.bindings ∧ r.value = s.reply.getD .null ∧ r.steps = s.steps

/-- An error and a failure that tell why a run stopped, and at which statement. -/
def Tells (g : Graph) (limit : Nat) (err : WalkError) (f : Failure) : Halt → Prop
  | .interrupted i => err = .interrupted i ∧ f.kind = .cancelled
  | .budget k s => err = .stepLimit f.nodeId limit ∧ f.kind = .stepLimit ∧
      f.statement = s.text ∧ g.Belongs f.nodeId k s
  | .fault k s x => (∃ kind, err = .dispatch f.nodeId kind k x) ∧ f.kind = .dispatch ∧
      f.statement = s.text ∧ g.Belongs f.nodeId k s

/-- A request that ended as a run ended: it succeeded if the run came to its end, and failed for the
same reason at the same statement if it stopped. -/
def EndedAs (x : Execution) (g : Graph) (limit : Nat) : Except Stopped Env → Prop
  | .ok s => ∃ r, x.outcome = .finished r none ∧ x.Shows r s ∧ r.status = .success ∧
      r.failure = none
  | .error stopped => ∃ r err f, x.outcome = .finished r (some err) ∧ x.Shows r stopped.env ∧
      r.status = .failure ∧ r.failure = some f ∧ Tells g limit err f stopped.halt

end Execution

/-- A request shows the state of the context it was left with. -/
theorem Execution.shows_of_context {x : Execution} {c : Context} {s : Env} (hctx : x.context = c)
    (henv : c.env = s) (failure : Option Failure) : x.Shows (Engine.resultOf c failure) s := by
  subst hctx henv
  exact ⟨rfl, rfl, rfl, rfl, rfl, rfl, rfl⟩

namespace Engine

theorem failureOf_of_belongs {c : Context} {g : Graph} (err : WalkError) {k : Nat} {s : Stmt}
    (hg : c.graph = some g) (hb : g.Belongs (failureNode c err) k s) :
    ∃ f, failureOf c err = some f ∧ f.kind = err.kind ∧ f.nodeId = failureNode c err ∧
      f.statement = s.text := by
  obtain ⟨n, hn, -, htext⟩ := hb
  have hslot : g.slot? (failureNode c err) = some (some n) := Graph.node?_eq_some_iff.mp hn
  refine ⟨_, by simp only [failureOf, hg, hslot]; rfl, rfl, rfl, ?_⟩
  simp only [htext, Option.getD_some]

/-- The failure of a walk that stopped as a run did tells why it stopped. -/
theorem tells_of_stopsAs {c : Context} {g : Graph} {limit : Nat} {stop : Option WalkError}
    {halt : Halt} (hg : c.graph = some g) (hp : g.Placed)
    (hs : Block.StopsAs g limit c stop halt) :
    ∃ err f, stop = some err ∧ failureOf c err = some f ∧ Execution.Tells g limit err f halt := by
  cases halt with
  | interrupted i =>
    have hgap : ∀ g', c.graph = some g' → ∀ i, g'.slot? i ≠ some none := by
      intro g' hg'
      rw [hg] at hg'
      exact Option.some.inj hg' ▸ hp.slot?_ne_gap
    obtain ⟨f, hf⟩ := Option.isSome_iff_exists.mp (failureOf_isSome hgap (.interrupted i))
    refine ⟨_, f, hs, hf, rfl, ?_⟩
    simp only [failureOf, hg] at hf
    split at hf
    · exact Option.some.inj hf ▸ rfl
    · cases hf
    · exact Option.some.inj hf ▸ rfl
  | budget k s =>
    obtain ⟨hb, hstop⟩ := hs
    obtain ⟨f, hf, hkind, hnode, htext⟩ :=
      failureOf_of_belongs (.stepLimit c.cursor limit) hg hb
    exact ⟨_, f, hstop, hf, by rw [hnode]; rfl, hkind, htext, by rw [hnode]; exact hb⟩
  | fault k s x =>
    obtain ⟨hb, kind, hstop⟩ := hs
    obtain ⟨f, hf, hkind, hnode, htext⟩ :=
      failureOf_of_belongs (.dispatch c.cursor kind k x) hg hb
    exact ⟨_, f, hstop, hf, ⟨kind, by rw [hnode]; rfl⟩, hkind, htext, by rw [hnode]; exact hb⟩

/-- A request to the program of a draft ends as running its body ends, if both are called off at the
same time. -/
theorem execute_endedAs {d : Draft} (hbody : d.body ≠ []) {e : Engine} (he : e.Ordinary)
    (look : Interrupts) (m : Message) :
    (e.execute look (Context.start m (some d.program))).EndedAs (Block.graph d.file d.body)
      e.maxSteps (Block.interpret look e.maxSteps d.body m) := by
  set g := Block.graph d.file d.body
  set c := Context.start m (some d.program)
  have hg : c.graph = some g := rfl
  have hp : g.Placed := Block.graph_placed d.file hbody
  have hfollows : Block.Follows e g look c g.entry noNode
      (Block.runBlock look e.maxSteps 0 c.env d.body) :=
    Block.block_follows he d.body 0 c g.entry noNode hg (Block.graph_threaded d.file d.body)
  have hwalk : e.walk look c = e.walkFrom g look (e.maxSteps - c.steps) g.entry c := rfl
  have hrun : Block.runBlock look e.maxSteps 0 c.env d.body =
      Block.interpret look e.maxSteps d.body m := rfl
  rw [hrun] at hfollows
  cases hr : Block.interpret look e.maxSteps d.body m with
  | ok s =>
    rw [hr] at hfollows
    obtain ⟨c', rfl, -, hend⟩ := hfollows
    -- The walk has come to the continuation of the whole body, where it ends.
    rw [← hwalk, walkFrom_noNode, Walked.ending, Walked.ending, Prod.mk.injEq] at hend
    obtain ⟨hctx, hout⟩ := execute_of_quiet he.quiet look c
      (fun err herr => by rw [hend.2] at herr; cases herr)
    rw [hend.1] at hctx hout
    rw [hend.2] at hout
    exact ⟨_, hout, Execution.shows_of_context hctx rfl none, rfl, rfl⟩
  | error x =>
    rw [hr] at hfollows
    obtain ⟨c', stop, henv, hprog, hend, hstop⟩ := hfollows
    rw [← hwalk, Walked.ending, Prod.mk.injEq] at hend
    have hg' : c'.graph = some g := by rw [Context.graph, hprog]; exact hg
    obtain ⟨err, f, rfl, hf, htells⟩ := tells_of_stopsAs hg' hp hstop
    obtain ⟨hctx, hout⟩ := execute_of_quiet he.quiet look c
      (fun err' herr => by
        rw [hend.2] at herr
        rw [hend.1, ← Option.some.inj herr, hf]
        rfl)
    rw [hend.1] at hctx hout
    rw [hend.2, Option.bind_some, hf] at hout
    exact ⟨_, err, f, hout, Execution.shows_of_context hctx henv (some f), rfl, rfl, htells⟩

end Engine

/-- Building keeps the meaning of a body: every named draft with a body builds, and a request to its
program ends as running the body does, with the same bindings in the same order, the same reply, the
same number of steps, and the same success or the same failure at the same statement. -/
theorem Draft.execute_build (d : Draft) (hname : d.name ≠ "") (hbody : d.body ≠ []) (m : Message)
    (e : Engine) (he : e.Ordinary) :
    ∃ p g, d.build = .ok p ∧ p.graph = some g ∧
      (e.execute .never (Context.start m (some p))).EndedAs g e.maxSteps
        (Block.interpret .never e.maxSteps d.body m) :=
  ⟨d.program, Block.graph d.file d.body, Draft.build_eq_ok hname hbody, rfl,
    Engine.execute_endedAs hbody he .never m⟩

/-- A budget of two statements is used up inside the branch. -/
theorem Draft.execute_build_nested :
    ∃ p g, (⟨"greet", "", "", none, [.assign "a" (.lit (.bool true)),
        .cond (.var "a") [.reply (.var "a")] []]⟩ : Draft).build = .ok p ∧ p.graph = some g ∧
      (({ maxSteps := 2 } : Engine).execute .never (Context.start default (some p))).EndedAs g 2
        (.error ⟨⟨default, [("a", .bool true)], ["a"], none, 2⟩, .budget 2 (.reply (.var "a"))⟩) :=
  Draft.execute_build _ (by decide) (by simp) default { maxSteps := 2 } ⟨rfl, fun _ => rfl⟩

end Courier
