import ZoneBridge.Binding
import ZoneBridge.Broadcast
import ZoneBridge.Sim.Reply

/-!
# A binding with a recording tracker

A `Recorder` is the simplest tracker: it takes in events of the types it accepts, keeping the
last one and counting them, and refuses any other. A `RecorderRun` drives one binding with a
recorder by hand, beside the link it subscribes to and a refresh channel of capacity four whose
receiver listens from the start.

The binding may be dropped: its subscriptions stay with the link but call nothing any more, and
its end of the refresh channel is gone, so the receiver sees the channel closed once it has taken
what is left. A step that needs the binding after that makes the whole run refused.
-/

namespace ZoneBridge

/-- A tracker that records the events of the types it accepts. -/
structure Recorder where
  accept : List MessageType
  /-- The last event taken in, as data. -/
  last : Option Json := none
  applied : Nat := 0

instance : Tracker Recorder where
  apply e := do
    if (← get).accept.contains e.messageType then
      modify fun r => { r with last := some e.toJson, applied := r.applied + 1 }
    else throw (.unexpectedEvent none e.messageType)

/-- One step of a recorder run. -/
inductive RecorderStep where
  | attach
  | detach
  /-- Hands a push message to the binding directly. -/
  | handle (n : Notification)
  /-- Pushes a message in through the link. -/
  | deliver (n : Notification)
  | subscriberCount (m : MessageType)
  | close
  /-- Asks the binding for the link, for sending. -/
  | amplifier
  | state
  /-- Removes the binding's subscriptions from the link behind its back. -/
  | dropSubscriptions
  | tryRefresh
  /-- Waits a while for a refresh signal. -/
  | recvRefresh
  | drop

/-- Whether a step needs the binding. -/
def RecorderStep.needsBinding : RecorderStep → Bool
  | .attach | .detach | .handle _ | .amplifier | .state => true
  | _ => false

/-- A binding with a recorder, its link and refresh channel. -/
structure RecorderRun where
  link : Link Unit := {}
  binding : Binding
  recorder : Recorder
  refresh : Broadcast EntityId := Broadcast.withCapacity 4
  dropped : Bool := false

namespace RecorderRun

/-- A run of a binding for an entity, subscribing to some message types and accepting some. -/
def create (id : EntityId) (messageTypes accept : List MessageType) : RecorderRun :=
  { binding := { id, messageTypes }, recorder := { accept } }

/-- Hands a push message to the binding; an applied message signals a refresh. -/
def handleOne (r : RecorderRun) (n : Notification) : RecorderRun × Delivery :=
  let (d, b, t) := r.binding.handle r.recorder n
  let r := { r with binding := b, recorder := t }
  (if d == .applied then { r with refresh := r.refresh.send b.id } else r, d)

/-- The binding's state as data. -/
def stateJson (r : RecorderRun) : Json :=
  .obj [("id", .string r.binding.id.uniqueId), ("lifecycle", .string r.binding.lifecycle.name),
    ("available", .bool r.binding.available), ("last", .ofOption id r.recorder.last),
    ("applied", .ofNat r.recorder.applied)]

/-- What a refresh signal taken from the channel gives. -/
def takeReply (r : RecorderRun) : RecorderRun × Reply :=
  let (x, c) := r.refresh.take
  ({ r with refresh := c }, match x with
    | .ok (some id) => .ok (.string id.uniqueId)
    | .ok none => .ok .null
    | .error e => .fail e)

/-- Runs one step. -/
def step (r : RecorderRun) : RecorderStep → RecorderRun × Reply
  | .attach =>
    match r.binding.attach r.link () with
    | .ok (b, l) => ({ r with binding := b, link := l }, .ok .null)
    | .error e => (r, .fail e)
  | .detach => let (b, l) := r.binding.detach r.link; ({ r with binding := b, link := l }, .ok .null)
  | .handle n => let (r, d) := r.handleOne n; (r, .ok (.string d.name))
  | .deliver n =>
    let (l, whos) := r.link.deliver n
    let r := { r with link := l }
    let r := if r.dropped then r else whos.foldl (fun r _ => (r.handleOne n).1) r
    (r, .ok (.ofNat whos.length))
  | .subscriberCount m => (r, .ok (.ofNat (r.link.subscriberCount m)))
  | .close => ({ r with link := r.link.close }, .ok .null)
  | .amplifier => (r, .ofUnit r.binding.ready)
  | .state => (r, .ok r.stateJson)
  | .dropSubscriptions =>
    let (l, n) := r.binding.subscriptions.foldl
      (fun (l, n) (m, h) => let (l, found) := l.unsubscribe m h; (l, if found then n + 1 else n))
      (r.link, 0)
    ({ r with link := l }, .ok (.ofNat n))
  | .tryRefresh => r.takeReply
  | .recvRefresh => r.takeReply
  | .drop => ({ r with dropped := true, refresh := r.refresh.closeSending }, .ok .null)

/-- Runs the steps in order; reports each step's result and the requests it sent. A step that
needs the binding after it was dropped makes the whole run refused. -/
def run (r : RecorderRun) (steps : List RecorderStep) : Reply :=
  let go := fun (acc : Except String (RecorderRun × List Json)) (s : RecorderStep) =>
    match acc with
    | .error why => .error why
    | .ok (r, out) =>
      if r.dropped && s.needsBinding then .error "the dispatcher was dropped"
      else
        let before := r.link.sent.length
        let (r, reply) := r.step s
        .ok (r, out ++ [.obj [("result", reply.result),
          ("requests", .array ((r.link.sent.drop before).map Request.toJson))]])
  match steps.foldl go (.ok (r, [])) with
  | .ok (_, out) => .ok (.array out)
  | .error why => .refused why

end RecorderRun

end ZoneBridge
