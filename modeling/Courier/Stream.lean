import Courier.Keyed

/-!
Subscriptions to results. Each subscription has a channel with room for one text; broadcasting a text
fills every channel of a message that is empty, and cancelling a subscription closes its channel.
-/

namespace Courier

/-- A channel with room for one text. -/
structure Channel where
  held : Option String := none
  isOpen : Bool := true

/-- Channels by number, and for each message the numbers of its open subscriptions. -/
structure Streams where
  channels : List Channel := []
  table : Keyed (List Nat) := []

namespace Streams

/-- The open subscriptions of a message. -/
def subscriptions (s : Streams) (id : String) : List Nat := (Keyed.get? s.table id).getD []

def subscribers (s : Streams) (id : String) : Nat := (s.subscriptions id).length

/-- Opens a subscription: its channel. -/
def subscribe (id : String) (s : Streams) : Streams × Nat :=
  let n := s.channels.length
  (⟨s.channels ++ [({} : Channel)], Keyed.insert id (s.subscriptions id ++ [n]) s.table⟩, n)

/-- Replaces a channel. -/
def put (n : Nat) (c : Channel) (s : Streams) : Streams :=
  { s with channels := s.channels.set n c }

/-- Ends a subscription; one that has ended already stays as it is. A message without subscriptions is
not in the table. -/
def cancel (id : String) (n : Nat) (s : Streams) : Streams :=
  if !(s.subscriptions id).contains n then s
  else
    let rest := (s.subscriptions id).erase n
    let closed := { (s.channels[n]?).getD {} with isOpen := false }
    put n closed { s with
      table := if rest.isEmpty then Keyed.erase id s.table else Keyed.insert id rest s.table }

/-- Sends a text to a channel, unless that is full. -/
def offer (text : String) (s : Streams) (n : Nat) : Streams :=
  match s.channels[n]? with
  | some c => if c.held.isNone then s.put n { c with held := some text } else s
  | none => s

/-- Sends a text to every subscription of a message. -/
def broadcast (id text : String) (s : Streams) : Streams :=
  (s.subscriptions id).foldl (offer text) s

/-- What a receive finds. -/
inductive Received
  | text (t : String)
  | closed
  | waiting
  deriving DecidableEq

/-- Takes the text out of a channel; where there is none, nothing ever comes. -/
def receive (n : Nat) (s : Streams) : Streams × Received :=
  match s.channels[n]? with
  | none => (s, .waiting)
  | some c =>
    match c.held with
    | some t => (s.put n { c with held := none }, .text t)
    | none => (s, if c.isOpen then .waiting else .closed)

end Streams
end Courier
