import Courier.Proofs.Keyed
import Courier.Stream
import Mathlib.Data.List.Induction
import Mathlib.Data.List.Nodup
import Mathlib.Data.List.Perm.Basic

/-! Subscriptions, call by call and over any history of calls.
Each operation is described by what it does to one channel, and to the list of those who wait for a
message. A ledger says which subscriptions were made and which of them were cancelled. The table lists
just those that were not, under the message they were made for, and their channels are the open ones; so
no channel is closed twice or sent to after it was closed. -/
namespace Courier.Streams

section Operations

variable (id : String) (s : Streams)

theorem subscriptions_subscribe :
    (s.subscribe id).1.subscriptions id = s.subscriptions id ++ [s.channels.length] := by
  change (Keyed.get? (Keyed.insert id _ s.table) id).getD [] = _
  rw [Keyed.get?_insert_self]
  rfl

theorem channels_subscribe_self : (s.subscribe id).1.channels[s.channels.length]? = some {} := by
  simp [subscribe]

theorem channels_subscribe_of_lt {n : Nat} (h : n < s.channels.length) :
    (s.subscribe id).1.channels[n]? = s.channels[n]? := by
  simp [subscribe, List.getElem?_append_left h]

theorem channels_put_of_ne {n m : Nat} (h : m ≠ n) (c : Channel) :
    (s.put m c).channels[n]? = s.channels[n]? := by
  simp [put, List.getElem?_set_ne h]

theorem channels_put_self {n : Nat} (h : n < s.channels.length) (c : Channel) :
    (s.put n c).channels[n]? = some c := by
  simp [put, h]

theorem subscriptions_subscribe_of_ne {other : String} (h : id ≠ other) :
    (s.subscribe id).1.subscriptions other = s.subscriptions other := by
  change (Keyed.get? (Keyed.insert id _ s.table) other).getD [] = _
  rw [Keyed.get?_insert_of_ne _ h]
  rfl

/-- Ending a subscription takes it off the list of its message, which is dropped with the last one. -/
theorem get?_cancel_self {n : Nat} (h : n ∈ s.subscriptions id) :
    Keyed.get? (s.cancel id n).table id =
      if (s.subscriptions id).erase n = [] then none else some ((s.subscriptions id).erase n) := by
  have hcontains : (!(s.subscriptions id).contains n) = false := by simpa using h
  rw [cancel, hcontains, if_neg (by decide)]
  dsimp only [put]
  by_cases hrest : (s.subscriptions id).erase n = []
  · rw [if_pos hrest, hrest]
    exact Keyed.get?_erase_self s.table id
  · rw [if_neg hrest, if_neg (by simpa using hrest)]
    exact Keyed.get?_insert_self s.table id _

theorem get?_cancel_of_ne (n : Nat) {other : String} (h : id ≠ other) :
    Keyed.get? (s.cancel id n).table other = Keyed.get? s.table other := by
  unfold cancel
  split_ifs
  · rfl
  dsimp only [put]
  split_ifs
  · exact Keyed.get?_erase_of_ne s.table h
  · exact Keyed.get?_insert_of_ne s.table h _

theorem cancel_of_not_mem {n : Nat} (h : n ∉ s.subscriptions id) : s.cancel id n = s := by
  rw [cancel, if_pos (by simpa using h)]

theorem subscriptions_cancel_self (n : Nat) :
    (s.cancel id n).subscriptions id = (s.subscriptions id).erase n := by
  by_cases h : n ∈ s.subscriptions id
  · rw [subscriptions, get?_cancel_self id s h]
    split_ifs with hrest
    · exact hrest.symm
    · rfl
  · rw [cancel_of_not_mem id s h, List.erase_of_not_mem h]

theorem subscriptions_cancel_of_ne (n : Nat) {other : String} (h : id ≠ other) :
    (s.cancel id n).subscriptions other = s.subscriptions other := by
  rw [subscriptions, get?_cancel_of_ne id s n h]
  rfl

/-- Ending one subscription takes no other off the list. -/
theorem mem_subscriptions_cancel {n m : Nat} (h : m ≠ n) (hn : n ∈ s.subscriptions id) :
    n ∈ (s.cancel id m).subscriptions id := by
  rw [subscriptions_cancel_self]
  exact (List.mem_erase_of_ne (Ne.symm h)).mpr hn

theorem channels_cancel_of_ne {n m : Nat} (h : m ≠ n) :
    (s.cancel id m).channels[n]? = s.channels[n]? := by
  unfold cancel
  split_ifs
  · rfl
  · exact channels_put_of_ne _ h _

variable (text : String)

theorem table_offer (n : Nat) : (s.offer text n).table = s.table := by
  unfold offer
  split
  · split_ifs <;> rfl
  · rfl

theorem subscriptions_offer (n : Nat) : (s.offer text n).subscriptions id = s.subscriptions id := by
  rw [subscriptions, table_offer]
  rfl

theorem channels_offer_of_ne {n m : Nat} (h : m ≠ n) :
    (s.offer text m).channels[n]? = s.channels[n]? := by
  unfold offer
  split
  · split_ifs
    · exact channels_put_of_ne _ h _
    · rfl
  · rfl

/-- A text that is sent to a channel is held there, unless another one is. -/
theorem channels_offer_self {n : Nat} {c : Channel} (h : s.channels[n]? = some c) :
    (s.offer text n).channels[n]? = some { c with held := some (c.held.getD text) } := by
  have hlt : n < s.channels.length := (List.getElem?_eq_some_iff.mp h).1
  obtain ⟨held, isOpen⟩ := c
  rw [offer, h]
  cases held with
  | none => exact channels_put_self s hlt _
  | some t => exact h

theorem table_receive (n : Nat) : (s.receive n).1.table = s.table := by
  unfold receive
  split
  · rfl
  · split <;> rfl

theorem subscriptions_receive (n : Nat) : (s.receive n).1.subscriptions id = s.subscriptions id := by
  rw [subscriptions, table_receive]
  rfl

theorem channels_receive_of_ne {n m : Nat} (h : m ≠ n) :
    (s.receive m).1.channels[n]? = s.channels[n]? := by
  unfold receive
  split
  · rfl
  · split
    · exact channels_put_of_ne _ h _
    · rfl

end Operations

/-! The operations as they crash: where a channel is closed twice, and where a text is sent to a closed
channel, whether or not there is room in it. -/

def close? (n : Nat) (s : Streams) : Option Streams :=
  match s.channels[n]? with
  | some c => if c.isOpen then some (s.put n { c with isOpen := false }) else none
  | none => none

def cancel? (id : String) (n : Nat) (s : Streams) : Option Streams :=
  if !(s.subscriptions id).contains n then some s
  else
    let rest := (s.subscriptions id).erase n
    close? n { s with
      table := if rest.isEmpty then Keyed.erase id s.table else Keyed.insert id rest s.table }

def offer? (text : String) (s : Streams) (n : Nat) : Option Streams :=
  match s.channels[n]? with
  | some c => if c.isOpen then some (s.offer text n) else none
  | none => none

variable {id : String} {s : Streams} {n : Nat} {c : Channel}

/-- Which channels are open. -/
def opens (s : Streams) : List Bool := s.channels.map Channel.isOpen

theorem opens_eq_some {b : Bool} :
    s.opens[n]? = some b ↔ ∃ c, s.channels[n]? = some c ∧ c.isOpen = b := by
  rw [opens, List.getElem?_map, Option.map_eq_some_iff]

theorem opens_put (n : Nat) (c : Channel) (s : Streams) :
    (s.put n c).opens = s.opens.set n c.isOpen := by
  rw [opens, put, List.map_set, opens]

/-- A channel that stays as open as it was leaves the others as they were too. -/
theorem opens_put_of_eq {c' : Channel} (h : s.channels[n]? = some c) (hopen : c'.isOpen = c.isOpen) :
    (s.put n c').opens = s.opens := by
  have hn : s.opens[n]? = some c'.isOpen := opens_eq_some.mpr ⟨c, h, hopen.symm⟩
  obtain ⟨hlt, hget⟩ := List.getElem?_eq_some_iff.mp hn
  rw [opens_put, ← hget, List.set_getElem_self]

theorem opens_subscribe (id : String) (s : Streams) : (s.subscribe id).1.opens = s.opens ++ [true] := by
  simp [opens, subscribe]

theorem opens_offer (text : String) (s : Streams) (n : Nat) : (s.offer text n).opens = s.opens := by
  unfold offer
  split
  · next c h =>
    split_ifs
    · exact opens_put_of_eq h rfl
    · rfl
  · rfl

theorem opens_receive (n : Nat) (s : Streams) : (s.receive n).1.opens = s.opens := by
  unfold receive
  split
  · rfl
  · next c h =>
    split
    · exact opens_put_of_eq h rfl
    · rfl

theorem opens_cancel (h : n ∈ s.subscriptions id) : (s.cancel id n).opens = s.opens.set n false := by
  rw [cancel, if_neg (by simpa using h)]
  exact opens_put n _ _

/-- A subscription whose channel is open can be cancelled. -/
theorem cancel?_eq_cancel (h : n ∈ s.subscriptions id → s.opens[n]? = some true) :
    cancel? id n s = some (s.cancel id n) := by
  by_cases hmem : n ∈ s.subscriptions id
  · obtain ⟨c, hc, hopen⟩ := opens_eq_some.mp (h hmem)
    have hcontains : ¬ (!(s.subscriptions id).contains n) = true := by simpa using hmem
    rw [cancel?, cancel, if_neg hcontains, if_neg hcontains]
    dsimp only [close?]
    rw [hc, Option.getD_some]
    exact if_pos hopen
  · rw [cancel?, if_pos (by simpa using hmem), cancel_of_not_mem id s hmem]

section Sends

variable {text : String} {order : List Nat}

/-- A text can be sent to open channels in turn. -/
theorem foldlM_offer? (h : ∀ n ∈ order, s.opens[n]? = some true) :
    order.foldlM (offer? text) s = some (order.foldl (offer text) s) := by
  induction order generalizing s with
  | nil => rfl
  | cons n order ih =>
    obtain ⟨hn, horder⟩ := List.forall_mem_cons.mp h
    obtain ⟨c, hc, hopen⟩ := opens_eq_some.mp hn
    have hoffer : offer? text s n = some (s.offer text n) := by
      rw [offer?, hc]
      exact if_pos hopen
    rw [List.foldlM_cons, hoffer, List.foldl_cons]
    exact ih fun m hm => (opens_offer text s n).symm ▸ horder m hm

theorem table_foldl_offer (order : List Nat) (s : Streams) :
    (order.foldl (offer text) s).table = s.table := by
  induction order generalizing s with
  | nil => rfl
  | cons n order ih => rw [List.foldl_cons, ih, table_offer]

theorem opens_foldl_offer (order : List Nat) (s : Streams) :
    (order.foldl (offer text) s).opens = s.opens := by
  induction order generalizing s with
  | nil => rfl
  | cons n order ih => rw [List.foldl_cons, ih, opens_offer]

/-- What a channel holds after a text was sent to it, if it was. -/
theorem channels_foldl_offer (hnodup : order.Nodup) (h : s.channels[n]? = some c) :
    (order.foldl (offer text) s).channels[n]? =
      some (if n ∈ order then { c with held := some (c.held.getD text) } else c) := by
  induction order generalizing s c with
  | nil => simpa using h
  | cons m order ih =>
    obtain ⟨hm, horder⟩ := List.nodup_cons.mp hnodup
    rw [List.foldl_cons]
    by_cases hmn : m = n
    · subst hmn
      rw [ih horder (channels_offer_self s text h), if_neg hm, if_pos List.mem_cons_self]
    · rw [ih horder ((channels_offer_of_ne s text hmn).trans h)]
      simp only [List.mem_cons, Ne.symm hmn, false_or]

/-- Texts that are sent in different orders come to the same. -/
theorem foldl_offer_perm {order' : List Nat} (h : order.Perm order') (hnodup : order.Nodup) :
    order.foldl (offer text) s = order'.foldl (offer text) s := by
  have hchannels : (order.foldl (offer text) s).channels = (order'.foldl (offer text) s).channels := by
    apply List.ext_getElem?
    intro n
    cases hc : s.channels[n]? with
    | some c =>
      rw [channels_foldl_offer hnodup hc, channels_foldl_offer (h.nodup_iff.mp hnodup) hc]
      simp only [h.mem_iff]
    | none =>
      have hlength (order : List Nat) : (order.foldl (offer text) s).channels.length = s.channels.length := by
        have hopens : opens (order.foldl (offer text) s) = opens s := opens_foldl_offer order s
        simpa [opens] using congrArg List.length hopens
      rw [List.getElem?_eq_none_iff] at hc
      rw [List.getElem?_eq_none (by rwa [hlength]), List.getElem?_eq_none (by rwa [hlength])]
  have htable : (order.foldl (offer text) s).table = (order'.foldl (offer text) s).table := by
    rw [table_foldl_offer, table_foldl_offer]
  cases hx : order.foldl (offer text) s
  cases hy : order'.foldl (offer text) s
  simp_all

end Sends

/-- A subscription as it was made: the message it is for, and whether it was cancelled since. -/
structure Subscription where
  id : String
  cancelled : Bool
  deriving DecidableEq

/-- Channels, and the subscriptions they were made for, in the same order. -/
structure Ledger where
  streams : Streams := {}
  made : List Subscription := []

/-- What can be called at any time. A subscription can be cancelled once it was made, also again. -/
inductive Call
  | subscribe (id : String)
  | cancel (n : Nat)
  | broadcast (id text : String)
  | receive (n : Nat)

namespace Ledger

def perform (l : Ledger) : Call → Ledger
  | .subscribe id => ⟨(l.streams.subscribe id).1, l.made ++ [⟨id, false⟩]⟩
  | .cancel n =>
    match l.made[n]? with
    | some u => ⟨l.streams.cancel u.id n, l.made.set n { u with cancelled := true }⟩
    | none => l
  | .broadcast id text => { l with streams := l.streams.broadcast id text }
  | .receive n => { l with streams := (l.streams.receive n).1 }

def after (calls : List Call) : Ledger := calls.foldl perform {}

/-- The subscriptions that stand are those that are listed and those whose channels are open. -/
structure Agrees (l : Ledger) : Prop where
  opens : l.streams.opens = l.made.map fun u => !u.cancelled
  listed : ∀ n id, n ∈ l.streams.subscriptions id ↔ l.made[n]? = some ⟨id, false⟩
  nodup : ∀ id, (l.streams.subscriptions id).Nodup
  inhabited : ∀ id, Keyed.get? l.streams.table id ≠ some []

theorem agrees_start : Agrees {} where
  opens := rfl
  listed := by
    intro n id
    constructor
    · exact nofun
    · exact nofun
  nodup := fun _ => List.nodup_nil
  inhabited := fun _ => nofun

namespace Agrees

variable {l : Ledger}

theorem length (h : l.Agrees) : l.streams.channels.length = l.made.length := by
  simpa [Streams.opens] using congrArg List.length h.opens

theorem isOpen (h : l.Agrees) {u : Subscription} (hu : l.made[n]? = some u) :
    l.streams.opens[n]? = some (!u.cancelled) := by
  rw [h.opens, List.getElem?_map, hu, Option.map_some]

/-- Calls that leave the table alone and neither open nor close a channel. -/
theorem frame (h : l.Agrees) {streams : Streams} (htable : streams.table = l.streams.table)
    (hopens : streams.opens = l.streams.opens) : Agrees { l with streams } := by
  have hsubscriptions (id : String) : streams.subscriptions id = l.streams.subscriptions id := by
    rw [subscriptions, htable]
    rfl
  exact {
    opens := hopens.trans h.opens
    listed := fun n id => by rw [hsubscriptions, h.listed]
    nodup := fun id => by rw [hsubscriptions]; exact h.nodup id
    inhabited := fun id => by rw [htable]; exact h.inhabited id }

theorem lt_length (h : l.Agrees) (hn : n ∈ l.streams.subscriptions id) :
    n < l.streams.channels.length := by
  rw [h.length]
  exact (List.getElem?_eq_some_iff.mp ((h.listed n id).mp hn)).1

theorem subscribe (h : l.Agrees) (id : String) : (l.perform (.subscribe id)).Agrees where
  opens := by
    change (l.streams.subscribe id).1.opens =
      (l.made ++ [(⟨id, false⟩ : Subscription)]).map fun u => !u.cancelled
    rw [opens_subscribe, h.opens, List.map_append]
    rfl
  listed := by
    intro n other
    change n ∈ (l.streams.subscribe id).1.subscriptions other ↔
      (l.made ++ [⟨id, false⟩])[n]? = some ⟨other, false⟩
    by_cases hother : id = other
    · subst hother
      rw [subscriptions_subscribe, List.mem_append, List.mem_singleton, h.listed, h.length,
        List.getElem?_append, List.getElem?_singleton]
      split_ifs with hlt hzero
      · simp [Nat.ne_of_lt hlt]
      · simp only [iff_true]
        exact .inr (by omega)
      · simp only [iff_false, not_or]
        exact ⟨by simp [List.getElem?_eq_none (Nat.le_of_not_lt hlt)], by omega⟩
    · rw [subscriptions_subscribe_of_ne id _ hother, h.listed, List.getElem?_append,
        List.getElem?_singleton]
      split_ifs with hlt hzero
      · rfl
      · simp [List.getElem?_eq_none (Nat.le_of_not_lt hlt), hother]
      · simp [List.getElem?_eq_none (Nat.le_of_not_lt hlt)]
  nodup := by
    intro other
    change ((l.streams.subscribe id).1.subscriptions other).Nodup
    by_cases hother : id = other
    · subst hother
      rw [subscriptions_subscribe]
      refine List.nodup_append.mpr ⟨h.nodup id, List.nodup_singleton _, ?_⟩
      intro n hn m hm
      have hlt := h.lt_length hn
      rw [List.mem_singleton.mp hm]
      exact Nat.ne_of_lt hlt
    · rw [subscriptions_subscribe_of_ne id _ hother]
      exact h.nodup other
  inhabited := by
    intro other
    change Keyed.get? (Keyed.insert id (_ ++ [_]) l.streams.table) other ≠ some []
    by_cases hother : id = other
    · subst hother
      simp [Keyed.get?_insert_self]
    · rw [Keyed.get?_insert_of_ne _ hother]
      exact h.inhabited other

/-- Cancelling again changes nothing, whatever was subscribed meanwhile. -/
theorem perform_cancel_again (h : l.Agrees) (hu : l.made[n]? = some ⟨id, true⟩) :
    l.perform (.cancel n) = l := by
  have hmem : n ∉ l.streams.subscriptions id := by
    rw [h.listed, hu]
    exact nofun
  obtain ⟨hlt, hget⟩ := List.getElem?_eq_some_iff.mp hu
  rw [perform, hu]
  dsimp only
  rw [cancel_of_not_mem _ _ hmem, ← hget, List.set_getElem_self]

theorem cancel (h : l.Agrees) (n : Nat) : (l.perform (.cancel n)).Agrees := by
  cases hu : l.made[n]? with
  | none =>
    rw [perform, hu]
    exact h
  | some u =>
  obtain ⟨id, cancelled⟩ := u
  -- Who has cancelled before has no channel in the table, even if the message has subscribers again.
  cases cancelled with
  | true => rwa [h.perform_cancel_again hu]
  | false =>
  have hmem : n ∈ l.streams.subscriptions id := (h.listed n id).mpr hu
  have hlt : n < l.made.length := (List.getElem?_eq_some_iff.mp hu).1
  have hperform : l.perform (.cancel n) = ⟨l.streams.cancel id n, l.made.set n ⟨id, true⟩⟩ := by
    rw [perform, hu]
  rw [hperform]
  constructor
  · rw [opens_cancel hmem, h.opens, List.map_set]
    rfl
  · intro m other
    dsimp only
    rw [List.getElem?_set]
    by_cases hother : id = other
    · subst hother
      rw [subscriptions_cancel_self, (h.nodup id).mem_erase_iff, h.listed]
      split_ifs with hnm
      · simp [hnm]
      · simp [Ne.symm hnm]
    · rw [subscriptions_cancel_of_ne id _ n hother, h.listed]
      split_ifs with hnm
      · subst hnm
        simp [hu, hother]
      · rfl
  · intro other
    dsimp only
    by_cases hother : id = other
    · subst hother
      rw [subscriptions_cancel_self]
      exact (h.nodup id).erase n
    · rw [subscriptions_cancel_of_ne id _ n hother]
      exact h.nodup other
  · intro other
    dsimp only
    by_cases hother : id = other
    · subst hother
      rw [get?_cancel_self id _ hmem]
      split_ifs with hrest
      · exact nofun
      · simpa using hrest
    · rw [get?_cancel_of_ne id _ n hother]
      exact h.inhabited other

/-- Every call keeps the ledger and the table in agreement. -/
theorem perform (h : l.Agrees) (call : Call) : (l.perform call).Agrees := by
  cases call with
  | subscribe id => exact h.subscribe id
  | cancel n => exact h.cancel n
  | broadcast id text =>
    exact h.frame (table_foldl_offer _ l.streams) (opens_foldl_offer _ l.streams)
  | receive n => exact h.frame (table_receive l.streams n) (opens_receive n l.streams)

end Agrees

theorem agrees_after (calls : List Call) : (after calls).Agrees := by
  have hrun (l : Ledger) (h : l.Agrees) : (calls.foldl perform l).Agrees := by
    induction calls generalizing l with
    | nil => exact h
    | cons call calls ih => exact ih _ (h.perform call)
  exact hrun {} agrees_start

/-- What holds of subscriptions at any time. -/
structure Sound (l : Ledger) : Prop where
  -- No call crashes: whoever cancels, and in whatever order a text is sent to those it is for.
  cancels (n : Nat) (u : Subscription) : l.made[n]? = some u →
    cancel? u.id n l.streams = some (l.streams.cancel u.id n)
  sends (id text : String) (order : List Nat) : order.Perm (l.streams.subscriptions id) →
    order.foldlM (offer? text) l.streams = some (l.streams.broadcast id text)
  -- Channels are open until they are cancelled, and listed just then, under their own message.
  numbered : l.streams.channels.length = l.made.length
  isOpen (n : Nat) (u : Subscription) (c : Channel) : l.made[n]? = some u →
    l.streams.channels[n]? = some c → c.isOpen = !u.cancelled
  listed (n : Nat) (u : Subscription) (c : Channel) : l.made[n]? = some u →
    l.streams.channels[n]? = some c →
    ∀ id, n ∈ l.streams.subscriptions id ↔ id = u.id ∧ c.isOpen = true
  inhabited (id : String) : Keyed.get? l.streams.table id ≠ some []
  counted (id : String) : l.streams.subscribers id = l.made.count ⟨id, false⟩
  -- A text reaches the open channels of its message that have room, and no others.
  reaches (id text : String) (n : Nat) (u : Subscription) (c : Channel) : l.made[n]? = some u →
    l.streams.channels[n]? = some c → (l.streams.broadcast id text).channels[n]? =
      some (if id = u.id ∧ c.isOpen = true ∧ c.held = none then { c with held := some text } else c)

end Ledger

/-- The positions of an element are as many as its occurrences. -/
theorem length_eq_count {α : Type} [DecidableEq α] {xs : List α} {a : α} {ns : List Nat}
    (hnodup : ns.Nodup) (h : ∀ n, n ∈ ns ↔ xs[n]? = some a) : ns.length = xs.count a := by
  have hcount : ((List.range xs.length).filter fun n => xs[n]? = some a).length = xs.count a := by
    clear h
    -- from the end, so that the positions before it stay what they are
    induction xs using List.reverseRec with
    | nil => rfl
    | append_singleton xs b ih =>
      have hbelow : (List.range xs.length).filter (fun n => (xs ++ [b])[n]? = some a) =
          (List.range xs.length).filter fun n => xs[n]? = some a := by
        apply List.filter_congr
        intro n hn
        rw [List.getElem?_append_left (List.mem_range.mp hn)]
      rw [List.length_append, List.length_singleton, List.range_succ, List.filter_append, hbelow,
        List.length_append, ih, List.count_append, List.count_singleton]
      by_cases hb : b = a
      · simp [hb]
      · simp [hb]
  have hperm : ns.Perm ((List.range xs.length).filter fun n => xs[n]? = some a) := by
    refine (List.perm_ext_iff_of_nodup hnodup (List.nodup_range.filter _)).mpr fun n => ?_
    rw [h, List.mem_filter, List.mem_range, decide_eq_true_eq]
    exact ⟨fun hn => ⟨(List.getElem?_eq_some_iff.mp hn).1, hn⟩, And.right⟩
  rw [hperm.length_eq, hcount]

namespace Ledger

/-- Whatever was called, no channel was closed twice or sent to after it was closed, those that are open
are listed under their message, and texts reach those who wait for them. -/
theorem sound_after (calls : List Call) : (after calls).Sound := by
  have h := agrees_after calls
  generalize after calls = l at h
  have hlisted (n : Nat) (u : Subscription) (c : Channel) (hu : l.made[n]? = some u)
      (hc : l.streams.channels[n]? = some c) (id : String) :
      n ∈ l.streams.subscriptions id ↔ id = u.id ∧ c.isOpen = true := by
    obtain ⟨c', hc', hopen⟩ := opens_eq_some.mp (h.isOpen hu)
    cases hc.symm.trans hc'
    obtain ⟨id', cancelled⟩ := u
    rw [h.listed, hu, hopen, eq_comm (a := id)]
    simp
  constructor
  · intro n u hu
    refine cancel?_eq_cancel fun hmem => ?_
    rw [h.isOpen ((h.listed n u.id).mp hmem)]
    rfl
  · intro id text order horder
    have hnodup : order.Nodup := horder.nodup_iff.mpr (h.nodup id)
    rw [broadcast, ← foldl_offer_perm horder hnodup]
    refine foldlM_offer? fun n hn => ?_
    rw [h.isOpen ((h.listed n id).mp (horder.mem_iff.mp hn))]
    rfl
  · exact h.length
  · intro n u c hu hc
    obtain ⟨c', hc', hopen⟩ := opens_eq_some.mp (h.isOpen hu)
    cases hc.symm.trans hc'
    exact hopen
  · exact hlisted
  · exact h.inhabited
  · exact fun id => length_eq_count (h.nodup id) fun n => h.listed n id
  · intro id text n u c hu hc
    rw [broadcast, channels_foldl_offer (h.nodup id) hc]
    simp only [hlisted n u c hu hc id]
    -- What is full stays as it is, so that it does not matter whether it is open.
    obtain ⟨held, isOpen⟩ := c
    cases held <;> simp

/-- Who cancels again does not end the subscription that somebody else has made since. -/
example : (after [.subscribe "a", .cancel 0, .subscribe "a", .cancel 0]).streams.subscribers "a" = 1 := by
  decide

end Ledger

end Courier.Streams
