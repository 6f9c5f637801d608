import ZoneBridge.Hub
import ZoneBridge.Request
import ZoneBridge.Error

/-!
# The link to the amplifier

A `Link` carries requests to the amplifier and pushed messages back. Requests go out through
an outbound queue until the link is closed; after that every request is refused as
`connectionUnavailable`. A *query* waits for the pushed message that answers it: a message of
the query's type about the query's zone or source. A message pushed in answers every query
waiting for it, and then goes to every subscriber of its type.

Waiting is recorded, not performed: a query leaves a `Wait` with a ticket, and a delivery, the
closing of the link or the query's own timer settles it; when nothing else is left to happen
the queries still waiting are settled as `timeout`.

Main statements: a closed link refuses every request (`enqueue_closed`), and a delivered event
leaves waiting exactly the queries it does not answer (`answer_waiting`).
-/

namespace ZoneBridge

/-- A query waiting for its answer. -/
structure Wait where
  ticket : Nat
  messageType : MessageType
  target : Target
deriving DecidableEq, Repr

/-- Whether an event answers a waiting query: same message type, same zone or source. -/
def Wait.answeredBy (w : Wait) (e : DeviceEvent) : Bool :=
  w.messageType == e.messageType && w.target == e.origin

/-- A link to the amplifier; subscribers are named by tags of type `σ`. -/
structure Link (σ : Type) where
  /-- Whether the outbound queue still takes requests. -/
  isOpen : Bool := true
  /-- Whether the serial side still reads the outbound queue. Once it lets go, every request is
  refused, though the link is not closed. -/
  receiving : Bool := true
  hub : Hub σ := {}
  /-- Every request handed to the outbound queue, oldest first. -/
  sent : List Request := []
  /-- Queries waiting for their answer, oldest first. -/
  waiting : List Wait := []
  /-- The outcomes of queries no longer waiting, by ticket. -/
  settled : List (Nat × Except BridgeError DeviceEvent) := []
  nextTicket : Nat := 0

namespace Link

variable {σ : Type}

/-- Hands a request to the outbound queue, if it is open and still read. -/
def enqueue (l : Link σ) (r : Request) : Except BridgeError (Link σ) :=
  if l.isOpen && l.receiving then .ok { l with sent := l.sent ++ [r] }
  else .error .connectionUnavailable

/-- Hands requests to the outbound queue in order, up to the first that is refused. -/
def enqueueAll (l : Link σ) : List Request → Link σ × Except BridgeError Unit
  | [] => (l, .ok ())
  | r :: rs =>
    match l.enqueue r with
    | .ok l' => enqueueAll l' rs
    | .error e => (l, .error e)

/-- Sends a command. -/
def send (l : Link σ) (c : Command) : Except BridgeError (Link σ) := l.enqueue (.command c)

/-- Sends a query whose answer nobody waits for. -/
def request (l : Link σ) (q : Query) : Except BridgeError (Link σ) := l.enqueue (.query q)

/-- Sends a query and waits for its answer; gives the ticket of the wait. -/
def ask (l : Link σ) (q : Query) : Except BridgeError (Link σ × Nat) := do
  let l' ← l.request q
  let w : Wait := ⟨l.nextTicket, q.messageType, q.target⟩
  pure ({ l' with waiting := l'.waiting ++ [w], nextTicket := l.nextTicket + 1 }, l.nextTicket)

/-- Settles every waiting query that an event answers. -/
def answer (l : Link σ) (e : DeviceEvent) : Link σ :=
  let (done, still) := l.waiting.partition (·.answeredBy e)
  { l with waiting := still, settled := l.settled ++ done.map fun w => (w.ticket, .ok e) }

/-- The wait of the query with this ticket runs out: if it is still waiting, it is settled as
`timeout`. -/
def timeOut (l : Link σ) (ticket : Nat) : Link σ :=
  let (done, still) := l.waiting.partition (·.ticket == ticket)
  { l with waiting := still, settled := l.settled ++ done.map fun w => (w.ticket, .error .timeout) }

/-- Settles every waiting query with the same failure. -/
def fail (l : Link σ) (e : BridgeError) : Link σ :=
  { l with waiting := [], settled := l.settled ++ l.waiting.map fun w => (w.ticket, .error e) }

/-- Takes a pushed message: it answers the queries waiting for it, if it is an event, and goes
to the subscribers of its type, who are given in the order they are to be called. -/
def deliver (l : Link σ) (n : Notification) : Link σ × List σ :=
  let l' := match n.event with
    | .ok e => l.answer e
    | .error _ => l
  (l', l'.hub.subscribers n.messageType)

/-- Closes the outbound queue; the queries waiting learn that the link closed. -/
def close (l : Link σ) : Link σ := { l.fail .connectionClosed with isOpen := false }

/-- The serial side lets go of the outbound queue; the queries waiting go on waiting. -/
def dropReceiver (l : Link σ) : Link σ := { l with receiving := false }

/-- Nothing else is left to happen: the queries still waiting time out. -/
def expire (l : Link σ) : Link σ := l.fail .timeout

/-- The outcome of the query with this ticket, once it is settled. -/
def outcome (l : Link σ) (ticket : Nat) : Option (Except BridgeError DeviceEvent) :=
  l.settled.lookup ticket

/-- Subscribes to a message type. -/
def subscribe (l : Link σ) (m : MessageType) (who : σ) : Link σ × Nat :=
  let (h, handle) := l.hub.add m who
  ({ l with hub := h }, handle)

/-- Ends a subscription; tells whether it was there. -/
def unsubscribe (l : Link σ) (m : MessageType) (handle : Nat) : Link σ × Bool :=
  let (h, removed) := l.hub.remove m handle
  ({ l with hub := h }, removed)

/-- How many subscribe to a message type. -/
def subscriberCount (l : Link σ) (m : MessageType) : Nat := l.hub.count m

theorem enqueue_closed (l : Link σ) (r : Request) (h : l.isOpen = false) :
    l.enqueue r = .error .connectionUnavailable := by
  simp [enqueue, h]

theorem answer_waiting (l : Link σ) (e : DeviceEvent) :
    (l.answer e).waiting = l.waiting.filter (fun w => !w.answeredBy e) := by
  simp [answer, List.partition_eq_filter_filter]
  rfl

end Link

end ZoneBridge
