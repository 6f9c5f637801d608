import ZoneBridge.Link
import ZoneBridge.Entity.Id

/-!
# Binding an entity to the link

The amplifier pushes one stream of messages to every subscriber of a type, so each entity
filters for its own zone or source. A `Binding` holds what an entity knows of its link: whether
it still holds the link, its subscriptions, its lifecycle and whether it ever received a reading.
The lifecycle runs `uninitialized → subscribed → live`; detaching returns it to `uninitialized`
for good, since the link is let go and can never be taken up again.

A tracker takes in an event by changing its state in place, one field after another, and may
fail on the way (`Update`): like a method on a mutable state, a failure leaves the state as far
as it got. Every tracker of the bridge computes what can fail before it changes anything, so a
refused event leaves its state as it was; that is a property of each tracker, not of the type.

A pushed message handed to a bound entity is checked in a fixed order: an entity not attached
ignores it (`inactive`); a payload that is not an event of its type is dropped (`malformed`); an
event about another zone or source is passed over (`foreign`); an event the entity's tracker
cannot use is dropped (`malformed`), the tracker keeping whatever state it was left in;
otherwise the tracker's state is updated, the entity becomes available and live, and it signals
a refresh (`applied`). A tracker whose native arithmetic overflows stops the program there
(`panicked`).
-/

namespace ZoneBridge

/-- Attachment state of an entity. -/
inductive Lifecycle where
  | uninitialized
  | subscribed
  | live
deriving DecidableEq, Repr

/-- The name of a lifecycle state. -/
def Lifecycle.name : Lifecycle → String
  | .uninitialized => "uninitialized"
  | .subscribed => "subscribed"
  | .live => "live"

/-- What became of a pushed message handed to an entity. -/
inductive Delivery where
  /-- The state was updated and a refresh signalled. -/
  | applied
  /-- The message is about another zone or source. -/
  | foreign
  /-- The payload could not be read or used; it was dropped. -/
  | malformed
  /-- The entity is not attached; the message was ignored. -/
  | inactive
  /-- The tracker's native arithmetic overflowed: the program stops. -/
  | panicked (o : Overflow)
deriving DecidableEq, Repr

/-- The name of a delivery outcome. -/
def Delivery.name : Delivery → String
  | .applied => "applied"
  | .foreign => "foreign"
  | .malformed => "malformed"
  | .inactive => "inactive"
  | .panicked _ => "panicked"

/-- A change of a state of type `τ` made in place, step by step, that may fail on the way; a
failure keeps the state it was reached in. -/
abbrev Update (τ : Type) := EStateM BridgeError τ

/-- A step of an update that changes nothing: the value of an outcome, or its failure. -/
def Update.ofOutcome {τ α : Type} (r : Outcome α) : Update τ α := fun t =>
  match r with
  | .ok a => .ok a t
  | .error e => .error e t

/-- The state an entity keeps from the events about its zone or source. -/
class Tracker (τ : Type) where
  /-- Takes in an event about the entity's own zone or source. -/
  apply : DeviceEvent → Update τ Unit

/-- What an entity knows of its link. -/
structure Binding where
  id : EntityId
  /-- The message types the entity subscribes to on attaching. -/
  messageTypes : List MessageType
  /-- Whether the entity still holds the link; detaching lets it go for good. -/
  linked : Bool := true
  lifecycle : Lifecycle := .uninitialized
  /-- The subscriptions made on attaching, with their handles. -/
  subscriptions : List (MessageType × Nat) := []
  /-- Whether a reading was ever taken in. -/
  available : Bool := false
deriving DecidableEq, Repr

namespace Binding

variable {σ : Type}

/-- The link, for sending; refused once it was let go. -/
def ready (b : Binding) : Except BridgeError Unit :=
  if b.linked then .ok () else .error .connectionUnavailable

/-- Subscribes `who` to each of the entity's message types, in order; gives the handles. -/
def subscribeAll (l : Link σ) (who : σ) : List MessageType → Link σ × List (MessageType × Nat)
  | [] => (l, [])
  | m :: ms =>
    let (l₁, h) := l.subscribe m who
    let (l₂, rest) := subscribeAll l₁ who ms
    (l₂, (m, h) :: rest)

/-- Attaches the entity: subscribes to its message types, unless it is attached already. -/
def attach (b : Binding) (l : Link σ) (who : σ) : Except BridgeError (Binding × Link σ) := do
  b.ready
  if b.lifecycle != .uninitialized then return (b, l)
  let (l', subs) := subscribeAll l who b.messageTypes
  pure ({ b with lifecycle := .subscribed, subscriptions := b.subscriptions ++ subs }, l')

/-- Ends every subscription that is still there. -/
def unsubscribeAll (l : Link σ) : List (MessageType × Nat) → Link σ
  | [] => l
  | (m, h) :: rest => unsubscribeAll (l.unsubscribe m h).1 rest

/-- Detaches the entity: ends its subscriptions and lets the link go for good. -/
def detach (b : Binding) (l : Link σ) : Binding × Link σ :=
  let l' := if b.linked then unsubscribeAll l b.subscriptions else l
  ({ b with linked := false, subscriptions := [], lifecycle := .uninitialized }, l')

/-- Hands a pushed message to the entity; gives what became of it, and the new binding and
tracked state. -/
def handle {τ : Type} [Tracker τ] (b : Binding) (t : τ) (n : Notification) :
    Delivery × Binding × τ :=
  if !b.linked || b.lifecycle == .uninitialized then (.inactive, b, t)
  else
    match n.event with
    | .error _ => (.malformed, b, t)
    | .ok e =>
      if e.origin != b.id.target then (.foreign, b, t)
      else
        match (Tracker.apply e).run t with
        | .ok () t' => (.applied, { b with available := true, lifecycle := .live }, t')
        | .error (.panic o) _ => (.panicked o, b, t)
        | .error _ t' => (.malformed, b, t')

end Binding

end ZoneBridge
