import Courier.Completion.Once
import Mathlib.Data.List.Infix
import Mathlib.Tactic.Common

/-! Completions. The first result reaches the responder, and no later one does.
A responder for many calls them in order with the same result, whether they fail or not, up to one that
crashes: the crash ends the round, and those behind it are not called.
A slot holds a result until a wait takes it, and takes another one as soon as it is taken. So it serves a
single result just when nobody comes after a wait has taken one. -/
namespace Courier

namespace Once

variable {σ : Type} {o : Once σ}

/-- The first completion calls the responder, if there is one, whatever the responder replies. -/
theorem complete_state (ho : o.completed = false) (r : Result) (w : σ) :
    (o.complete r w).state = match o.responder with
      | some respond => (respond (o.addressed r) w).1
      | none => w := by
  unfold complete
  rw [if_neg (by rw [ho]; exact Bool.false_ne_true)]
  cases o.responder with
  | none => rfl
  | some respond =>
    dsimp only
    split
    all_goals
      rename_i heq
      rw [heq]

theorem complete_state_again (ho : o.completed = true) (r : Result) (w : σ) :
    (o.complete r w).state = w := by
  rw [complete, if_pos ho]

/-- Completing marks the handle and changes nothing else of it. -/
theorem complete_handle (o : Once σ) (r : Result) (w : σ) :
    (o.complete r w).handle = { o with completed := true } := by
  cases ho : o.completed with
  | true =>
    rw [complete, if_pos ho, ← ho]
  | false =>
    unfold complete
    rw [if_neg (by rw [ho]; exact Bool.false_ne_true)]
    cases o.responder with
    | none => rfl
    | some respond =>
      dsimp only
      split <;> rfl

/-- A result that carries the id of the handle is delivered as it is. -/
theorem addressed_eq {r : Result} (h : r.messageId = o.messageId) : o.addressed r = r := by
  unfold addressed
  split_ifs
  · rw [← h]
  · rfl

end Once

/-- A delivery that ended in a crash. -/
def Reply.Crashed (reply : Reply) : Prop := ∃ t, reply = .panicked t

namespace Responder

variable {σ : Type} {rs : List (Option (Responder σ))}

/-- A call of one among several responders: its place, what it was given and what it replied. -/
structure Called where
  place : Nat
  result : Result
  reply : Reply

/-- A responder that notes its calls. -/
def noted (place : Nat) (respond : Responder σ) : Responder (σ × List Called) := fun r s =>
  let (state, reply) := respond r s.1
  ((state, s.2 ++ [⟨place, r, reply⟩]), reply)

/-- All responders of a list note their calls, with places counted from a number on. -/
def allNoted (rs : List (Option (Responder σ))) (start : Nat) : List (Option (Responder (σ × List Called))) :=
  (rs.zipIdx start).map fun x => x.1.map (noted x.2)

/-- The places of those that are there. -/
def present (rs : List (Option (Responder σ))) (start : Nat) : List Nat :=
  (rs.zipIdx start).filterMap fun x => x.1.map fun _ => x.2

theorem present_some (respond : Responder σ) (start : Nat) :
    present (some respond :: rs) start = start :: present rs (start + 1) := rfl

/-- A call that was made as part of a round. -/
structure Called.Fits (rs : List (Option (Responder σ))) (start : Nat) (r : Result) (c : Called) : Prop where
  result : c.result = r
  reply : ∃ respond s, (some respond, c.place) ∈ rs.zipIdx start ∧ c.reply = (respond r s).2

theorem Called.Fits.later {start : Nat} {r : Result} {c : Called} {first : Option (Responder σ)}
    (h : c.Fits rs (start + 1) r) : c.Fits (first :: rs) start r := by
  obtain ⟨respond, s, hmem, hreply⟩ := h.reply
  exact ⟨h.result, respond, s, List.mem_cons_of_mem _ hmem, hreply⟩

/-- The calls of a round: in order, with the same result, no crash but in the last of them, and everyone
who is there unless it is with a crash that the round ends. -/
structure Round (rs : List (Option (Responder σ))) (start : Nat) (r : Result) (calls : List Called)
    (reply : Reply) : Prop where
  inOrder : calls.map Called.place <+: present rs start
  fits : ∀ c ∈ calls, c.Fits rs start r
  calm : ∀ c ∈ calls.dropLast, ¬ c.reply.Crashed
  ending : (calls.map Called.place = present rs start ∧ (∀ c ∈ calls, ¬ c.reply.Crashed) ∧ ¬ reply.Crashed) ∨
    ∃ last t, calls.getLast? = some last ∧ last.reply = .panicked t ∧ reply = .panicked t

namespace Round

variable {start : Nat} {r : Result} {calls : List Called} {reply : Reply}

theorem nil (h : ¬ reply.Crashed) : Round ([] : List (Option (Responder σ))) start r [] reply where
  inOrder := List.prefix_refl _
  fits := List.forall_mem_nil _
  calm := List.forall_mem_nil _
  ending := .inl ⟨rfl, List.forall_mem_nil _, h⟩

theorem absent (h : Round rs (start + 1) r calls reply) : Round (none :: rs) start r calls reply where
  inOrder := h.inOrder
  fits := fun c hc => (h.fits c hc).later
  calm := h.calm
  ending := h.ending

theorem called (h : Round rs (start + 1) r calls reply) (respond : Responder σ) (s : σ)
    (hcalm : ¬ (respond r s).2.Crashed) :
    Round (some respond :: rs) start r (⟨start, r, (respond r s).2⟩ :: calls) reply where
  inOrder := by
    rw [present_some, List.map_cons, List.cons_prefix_cons]
    exact ⟨rfl, h.inOrder⟩
  fits := by
    rw [List.forall_mem_cons]
    refine ⟨⟨rfl, respond, s, ?_, rfl⟩, fun c hc => (h.fits c hc).later⟩
    exact List.mem_cons_self
  calm := by
    cases calls with
    | nil => exact List.forall_mem_nil _
    | cons c calls =>
      rw [List.dropLast_cons_cons, List.forall_mem_cons]
      exact ⟨hcalm, h.calm⟩
  ending := by
    rcases h.ending with ⟨hall, hnone, hreply⟩ | ⟨last, t, hlast, hcrash⟩
    · refine .inl ⟨?_, List.forall_mem_cons.mpr ⟨hcalm, hnone⟩, hreply⟩
      rw [present_some, List.map_cons, hall]
    · refine .inr ⟨last, t, ?_, hcrash⟩
      cases calls with
      | nil => cases hlast
      | cons c calls => rw [List.getLast?_cons_cons, hlast]

theorem crashed (respond : Responder σ) (s : σ) {t : String} (hcrash : (respond r s).2 = .panicked t) :
    Round (some respond :: rs) start r [⟨start, r, (respond r s).2⟩] (.panicked t) where
  inOrder := by
    rw [present_some, List.map_singleton, List.cons_prefix_cons]
    exact ⟨rfl, List.nil_prefix⟩
  fits := by
    rw [List.forall_mem_singleton]
    exact ⟨rfl, respond, s, List.mem_cons_self, rfl⟩
  calm := List.forall_mem_nil _
  ending := .inr ⟨_, t, rfl, hcrash, rfl⟩

end Round

/-- A round in which nobody is left does not crash. -/
theorem callAll_nil_calm (r : Result) (faults : List Fault) (s : σ) :
    ¬ (callAll ([] : List (Option (Responder σ))) r faults s).2.Crashed := by
  rintro ⟨t, hcrash⟩
  rw [callAll] at hcrash
  split_ifs at hcrash

/-- Noting the calls changes nothing else, and what is noted is a round. -/
theorem callAll_noted (rs : List (Option (Responder σ))) (start : Nat) (r : Result) (faults : List Fault)
    (s : σ) (before : List Called) : ∃ calls,
      callAll (allNoted rs start) r faults (s, before) =
        (((callAll rs r faults s).1, before ++ calls), (callAll rs r faults s).2) ∧
      Round rs start r calls (callAll rs r faults s).2 := by
  induction rs generalizing start faults s before with
  | nil =>
    refine ⟨[], ?_, .nil (callAll_nil_calm r faults s)⟩
    rw [List.append_nil]
    rfl
  | cons first rs ih =>
    cases first with
    | none =>
      obtain ⟨calls, heq, hround⟩ := ih (start + 1) faults s before
      exact ⟨calls, heq, hround.absent⟩
    | some respond =>
      -- The call is noted first, and then the round goes on or it does not.
      have hnoted : allNoted (some respond :: rs) start =
          some (noted start respond) :: allNoted rs (start + 1) := rfl
      rw [hnoted, callAll, callAll, noted]
      have hcalled {calls : List Called} {reply : Reply} (hround : Round rs (start + 1) r calls reply) :=
        hround.called respond s
      have hcrashed {t : String} (hcrash : (respond r s).2 = .panicked t) :
          Round (some respond :: rs) start r _ (.panicked t) :=
        .crashed respond s hcrash
      rcases hreply : respond r s with ⟨state, reply⟩
      rw [hreply] at hcalled hcrashed
      cases reply with
      | done =>
        obtain ⟨calls, heq, hround⟩ := ih (start + 1) faults state (before ++ [⟨start, r, .done⟩])
        refine ⟨⟨start, r, .done⟩ :: calls, ?_, hcalled hround nofun⟩
        simpa using heq
      | failed f =>
        obtain ⟨calls, heq, hround⟩ :=
          ih (start + 1) (faults ++ [f]) state (before ++ [⟨start, r, .failed f⟩])
        refine ⟨⟨start, r, .failed f⟩ :: calls, ?_, hcalled hround nofun⟩
        simpa using heq
      | panicked t => exact ⟨[⟨start, r, .panicked t⟩], rfl, hcrashed rfl⟩

/-- Where nobody crashes, everyone who is there is called. -/
theorem Round.everyone {start : Nat} {r : Result} {calls : List Called} {reply : Reply}
    (h : Round rs start r calls reply)
    (hcalm : ∀ respond, some respond ∈ rs → ∀ r s, ¬ (respond r s).2.Crashed) :
    calls.map Called.place = present rs start := by
  rcases h.ending with ⟨hall, -⟩ | ⟨last, t, hlast, hcrash, -⟩
  · exact hall
  · obtain ⟨-, respond, s, hmem, hreply⟩ := h.fits last (List.mem_of_getLast? hlast)
    have hthere : some respond ∈ rs := List.fst_mem_of_mem_zipIdx hmem
    exact absurd ⟨t, hreply ▸ hcrash⟩ (hcalm respond hthere r s)

/-- The round of a list goes on with what comes behind it, unless somebody crashes. -/
theorem callAll_append (rs behind : List (Option (Responder σ))) (r : Result) (faults : List Fault) (s : σ) :
    ((callAll rs r faults s).2.Crashed ∧ callAll (rs ++ behind) r faults s = callAll rs r faults s) ∨
      (¬ (callAll rs r faults s).2.Crashed ∧ ∃ faults', callAll (rs ++ behind) r faults s =
        callAll behind r faults' (callAll rs r faults s).1) := by
  induction rs generalizing faults s with
  | nil => exact .inr ⟨callAll_nil_calm r faults s, faults, rfl⟩
  | cons first rs ih =>
    cases first with
    | none => exact ih faults s
    | some respond =>
      rw [List.cons_append, callAll, callAll]
      rcases respond r s with ⟨s', reply⟩
      cases reply with
      | done => exact ih faults s'
      | failed f => exact ih (faults ++ [f]) s'
      | panicked t => exact .inl ⟨⟨t, rfl⟩, rfl⟩

/-- The last one of a round leaves the state as it would alone. -/
theorem callAll_singleton (respond : Responder σ) (r : Result) (faults : List Fault) (s : σ) :
    (callAll [some respond] r faults s).1 = (respond r s).1 := by
  rw [callAll]
  rcases respond r s with ⟨s', reply⟩
  cases reply <;> rfl

/-- What each of some responders keeps, all of them keep. -/
theorem callAll_keeps {P : σ → Prop} {r : Result}
    (h : ∀ respond, some respond ∈ rs → ∀ s, P s → P (respond r s).1) (faults : List Fault) {s : σ}
    (hs : P s) : P (callAll rs r faults s).1 := by
  induction rs generalizing faults s with
  | nil => exact hs
  | cons first rs ih =>
    have hrest (respond : Responder σ) (hmem : some respond ∈ rs) :=
      h respond (List.mem_cons_of_mem first hmem)
    cases first with
    | none => exact ih hrest faults hs
    | some respond =>
      have hcalled := h respond List.mem_cons_self s hs
      rw [callAll]
      rcases hreply : respond r s with ⟨s', reply⟩
      rw [hreply] at hcalled
      -- A crash ends the round, and leaves what was kept so far.
      cases reply with
      | done => exact ih hrest faults hcalled
      | failed f => exact ih hrest _ hcalled
      | panicked t => exact hcalled

end Responder

namespace Mailbox

/-- A call on a slot. A wait that is called off may give up although there is a result. -/
inductive Call
  | respond (r : Result)
  | wait (giveUp : Fault)
  | abandon (giveUp : Fault)

inductive Answer
  | replied (reply : Reply)
  | waited (outcome : Except Fault Result)

/-- Calls in the order in which they were made, with their answers. -/
abbrev History := List (Call × Answer)

def perform : Call → Mailbox → Mailbox × Answer
  | .respond r, box => let (box, reply) := respond r box; (box, .replied reply)
  | .wait giveUp, box => let (box, outcome) := wait giveUp box; (box, .waited outcome)
  | .abandon giveUp, box => (box, .waited (.error giveUp))

/-- What happens when calls are made one after the other. -/
def history : List Call → Mailbox → History
  | [], _ => []
  | call :: calls, box => (call, (perform call box).2) :: history calls (perform call box).1

/-- The slot after some calls. -/
def after (calls : List Call) (box : Mailbox) : Mailbox :=
  calls.foldl (fun box call => (perform call box).1) box

/-! What happened in a history: the replies to those who had a result to deliver, all their results and
those among them that were accepted, and the results that somebody received. -/

def replies (h : History) : List Reply :=
  h.filterMap fun
    | (_, .replied reply) => some reply
    | _ => none

def responded (h : History) : List Result :=
  h.filterMap fun
    | (.respond r, _) => some r
    | _ => none

def accepted (h : History) : List Result :=
  h.filterMap fun
    | (.respond r, .replied .done) => some r
    | _ => none

def received (h : History) : List Result :=
  h.filterMap fun
    | (_, .waited (.ok r)) => some r
    | _ => none

variable {h : History} {x : Call × Answer}

theorem accepted_cons (x : Call × Answer) (h : History) : accepted (x :: h) = accepted [x] ++ accepted h :=
  List.filterMap_append (l := [x])

theorem received_cons (x : Call × Answer) (h : History) : received (x :: h) = received [x] ++ received h :=
  List.filterMap_append (l := [x])

/-- A call keeps account: what was there or is accepted now is received now or stays. -/
theorem perform_balance (call : Call) (box : Mailbox) :
    box.toList ++ accepted [(call, (perform call box).2)] =
      received [(call, (perform call box).2)] ++ (perform call box).1.toList := by
  cases call with
  | respond r => cases box <;> rfl
  | wait giveUp => cases box <;> rfl
  | abandon giveUp => cases box <;> rfl

/-- What is received is what was accepted, in order, but for what is still there. -/
theorem history_balance (calls : List Call) (box : Mailbox) : box.toList ++ accepted (history calls box) =
    received (history calls box) ++ (after calls box).toList := by
  induction calls generalizing box with
  | nil => exact List.append_nil _
  | cons call calls ih =>
    have hstep := perform_balance call box
    have hrest := ih (perform call box).1
    rw [history, accepted_cons, received_cons, ← List.append_assoc, hstep, List.append_assoc, hrest,
      List.append_assoc]
    rfl

/-- A history in which one result is all that the slot takes: the first, which one wait may receive. -/
structure Single (h : History) : Prop where
  first : ∀ reply ∈ (replies h).head?, reply = .done
  later : ∀ reply ∈ (replies h).tail, reply = .failed full
  taken : received h <+: (responded h).take 1

/-- Somebody comes with a result after a wait has taken one. -/
def Late (h : History) : Prop :=
  ∃ before r answer rest, h = before ++ (.respond r, answer) :: rest ∧ received before ≠ []

theorem responded_ne_nil_iff : responded h ≠ [] ↔ ∃ r answer, (Call.respond r, answer) ∈ h := by
  constructor
  · intro hne
    obtain ⟨r, hr⟩ := List.exists_mem_of_ne_nil _ hne
    obtain ⟨⟨call, answer⟩, hmem, hcall⟩ := List.mem_filterMap.mp hr
    cases call with
    | respond r' => exact ⟨r', answer, hmem⟩
    | wait giveUp | abandon giveUp => cases hcall
  · rintro ⟨r, answer, hmem⟩
    have hr : r ∈ responded h := List.mem_filterMap.mpr ⟨_, hmem, rfl⟩
    exact List.ne_nil_of_mem hr

theorem Late.responded_ne_nil (hlate : Late h) : responded h ≠ [] := by
  obtain ⟨before, r, answer, rest, rfl, -⟩ := hlate
  exact responded_ne_nil_iff.mpr ⟨r, answer, List.mem_append_right _ List.mem_cons_self⟩

/-- Either the first call has taken a result before somebody comes with one, or a later one has. -/
theorem late_cons : Late (x :: h) ↔ received [x] ≠ [] ∧ responded h ≠ [] ∨ Late h := by
  constructor
  · rintro ⟨before, r, answer, rest, hsplit, htaken⟩
    cases before with
    | nil => exact absurd rfl htaken
    | cons y before =>
      obtain ⟨rfl, rfl⟩ := List.cons.inj hsplit
      rw [received_cons, Ne, List.append_eq_nil_iff, not_and_or] at htaken
      rcases htaken with hx | hbefore
      · exact .inl ⟨hx, responded_ne_nil_iff.mpr ⟨r, answer, List.mem_append_right _ List.mem_cons_self⟩⟩
      · exact .inr ⟨before, r, answer, rest, rfl, hbefore⟩
  · rintro (⟨hx, hne⟩ | ⟨before, r, answer, rest, rfl, htaken⟩)
    · obtain ⟨r, answer, hmem⟩ := responded_ne_nil_iff.mp hne
      obtain ⟨before, rest, rfl⟩ := List.append_of_mem hmem
      refine ⟨x :: before, r, answer, rest, rfl, ?_⟩
      rw [received_cons]
      exact List.append_ne_nil_of_left_ne_nil hx _
    · refine ⟨x :: before, r, answer, rest, rfl, ?_⟩
      rw [received_cons]
      exact List.append_ne_nil_of_right_ne_nil _ htaken

theorem late_cons_of_received_nil (hx : received [x] = []) : Late (x :: h) ↔ Late h := by
  rw [late_cons, or_iff_right fun hleft => hleft.1 hx]

/-! A history goes through three stages: the slot has not had a result yet, it has one, and its result has
been taken. -/

/-- Either nobody comes to an empty slot with a result, and it gives none, or the first one is accepted. -/
theorem history_none_cases (calls : List Call) :
    (responded (history calls none) = [] ∧ replies (history calls none) = [] ∧
      received (history calls none) = []) ∨
    (responded (history calls none) ≠ [] ∧ .done ∈ replies (history calls none)) := by
  induction calls with
  | nil => exact .inl ⟨rfl, rfl, rfl⟩
  | cons call calls ih =>
    cases call with
    | respond r => exact .inr ⟨List.cons_ne_nil r _, List.mem_cons_self⟩
    | wait giveUp => exact ih
    | abandon giveUp => exact ih

theorem not_late_nil : ¬ Late [] := fun hlate => hlate.responded_ne_nil rfl

/-- A slot with a result gives just that one and takes no other, unless somebody comes after it was
taken. -/
theorem history_some_iff (r : Result) (calls : List Call) :
    ((∀ reply ∈ replies (history calls (some r)), reply = .failed full) ∧
      received (history calls (some r)) <+: [r]) ↔ ¬ Late (history calls (some r)) := by
  induction calls with
  | nil => exact iff_of_true ⟨List.forall_mem_nil _, List.nil_prefix⟩ not_late_nil
  | cons call calls ih =>
    cases call with
    | respond r' =>
      have hstep : history (.respond r' :: calls) (some r) =
          (.respond r', .replied (.failed full)) :: history calls (some r) := rfl
      have hreplies : replies (history (.respond r' :: calls) (some r)) =
          .failed full :: replies (history calls (some r)) := rfl
      rw [hreplies, List.forall_mem_cons, and_iff_right rfl, hstep, late_cons_of_received_nil rfl]
      exact ih
    | abandon giveUp =>
      have hstep : history (.abandon giveUp :: calls) (some r) =
          (.abandon giveUp, .waited (.error giveUp)) :: history calls (some r) := rfl
      rw [hstep, late_cons_of_received_nil rfl]
      exact ih
    | wait giveUp =>
      -- From here on the slot is empty, and whoever comes is late.
      have hstep : history (.wait giveUp :: calls) (some r) =
          (.wait giveUp, .waited (.ok r)) :: history calls none := rfl
      have hreceived : received (history (.wait giveUp :: calls) (some r)) =
          r :: received (history calls none) := rfl
      have hlate : Late (history (.wait giveUp :: calls) (some r)) ↔ responded (history calls none) ≠ [] := by
        rw [hstep, late_cons]
        constructor
        · rintro (⟨-, hne⟩ | hrest)
          · exact hne
          · exact hrest.responded_ne_nil
        · exact fun hne => .inl ⟨List.cons_ne_nil r [], hne⟩
      have hreplies : replies (history (.wait giveUp :: calls) (some r)) =
          replies (history calls none) := rfl
      rw [hlate, not_not, hreplies, hreceived]
      rcases history_none_cases calls with ⟨hnone, hquiet, htaken⟩ | ⟨hne, hdone⟩
      · rw [hquiet, htaken]
        exact iff_of_true ⟨List.forall_mem_nil _, List.prefix_refl _⟩ hnone
      · refine iff_of_false ?_ hne
        rintro ⟨hrefused, -⟩
        cases hrefused .done hdone

/-- A slot that was empty at first serves a single result just when nobody comes with another one after
a wait has taken it. -/
theorem single_history_iff (calls : List Call) :
    Single (history calls none) ↔ ¬ Late (history calls none) := by
  induction calls with
  | nil => exact iff_of_true ⟨nofun, nofun, List.nil_prefix⟩ not_late_nil
  | cons call calls ih =>
    cases call with
    | respond r =>
      have hstep : history (.respond r :: calls) none =
          (.respond r, .replied .done) :: history calls (some r) := rfl
      rw [hstep, late_cons_of_received_nil rfl, ← history_some_iff]
      constructor
      · intro hsingle
        exact ⟨hsingle.later, hsingle.taken⟩
      · rintro ⟨hlater, htaken⟩
        exact ⟨fun reply hreply => (Option.some.inj hreply).symm, hlater, htaken⟩
    | wait giveUp | abandon giveUp =>
      -- Nothing is there to be taken, so that all is still to come.
      refine Iff.trans ?_ (ih.trans (not_congr (Iff.symm (late_cons_of_received_nil rfl))))
      exact ⟨fun h => ⟨h.first, h.later, h.taken⟩, fun h => ⟨h.first, h.later, h.taken⟩⟩

/-- A slot serves a single result just when nobody comes with another one after it was taken. In any case
the results are received in the order in which they were accepted, each once, and whoever comes is refused
just as long as one of them is left. -/
theorem single_iff_not_late (calls : List Call) :
    (Single (history calls none) ↔ ¬ Late (history calls none)) ∧
      accepted (history calls none) = received (history calls none) ++ (after calls none).toList ∧
      ∀ r, (respond r (after calls none)).2 = .done ∧
          accepted (history calls none) = received (history calls none) ∨
        (respond r (after calls none)).2 = .failed full ∧
          accepted (history calls none) ≠ received (history calls none) := by
  have hbalance := history_balance calls none
  rw [Option.toList_none, List.nil_append] at hbalance
  refine ⟨single_history_iff calls, hbalance, fun r => ?_⟩
  rw [hbalance, Ne, List.append_right_eq_self]
  cases after calls none with
  | none => exact .inl ⟨rfl, rfl⟩
  | some old => exact .inr ⟨rfl, List.cons_ne_nil old []⟩

/-- Two results of which the second one comes after the first was taken. -/
def again : List Call :=
  [.respond { Result.blank with messageId := "first" }, .wait .canceled,
    .respond { Result.blank with messageId := "second" }, .wait .canceled]

/-- The second result is accepted, and received too. -/
theorem not_single_again :
    replies (history again none) = [.done, .done] ∧
      (received (history again none)).map Result.messageId = ["first", "second"] ∧
      ¬ Single (history again none) := by
  refine ⟨rfl, rfl, fun hsingle => ?_⟩
  cases hsingle.later .done List.mem_cons_self

end Mailbox
end Courier
