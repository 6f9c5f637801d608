import ZoneBridge.Bridge
import ZoneBridge.Config.Text
import ZoneBridge.Event.Text
import ZoneBridge.Sim.Reply

/-!
# Sessions with a bridge

A session runs steps against the bridge of one amplifier, as the host and the amplifier would:
the host attaches and detaches entities, reads their state and calls them; the amplifier pushes
messages in. The session listens on the bridge's refresh channel from its start.

Each step reports its result, the requests it sent, the refresh signals it caused (in order, with
a note where the listener fell behind) and the state of every entity that signalled.

A session is made from a configuration, which is checked, or from raw parts, which are not; a few
steps need the configuration and are refused in a raw session.

A panic stops the program: a step that ran into one, in a pushed message or in its own
computation, ends the session, which then reports nothing but the panic.
-/

namespace ZoneBridge

/-- Which entity a step is about. -/
inductive EntityRef where
  | zone (id : UInt8)
  | switch (id : UInt8)
  | dial (d : Dial) (id : UInt8)

/-- What a step asks of a zone player. -/
inductive ZoneAction where
  | call (c : PlayerCall)
  /-- Snapshots the zone; while its query waits the link is closed if `close`, and the
  `answers` are pushed in. -/
  | snapshot (answers : List Notification) (close : Bool)
  | restore
  | info

/-- One step of a session. -/
inductive SessionStep where
  | entities
  | attachAll
  | detachAll
  | attach (e : EntityRef)
  | detach (e : EntityRef)
  | state (e : EntityRef)
  | deviceInfo (e : EntityRef)
  /-- Pushes a message in `times` times. -/
  | deliver (n : Notification) (times : Nat)
  /-- Pushes in a message written as text. -/
  | deliverText (text : String)
  /-- Pushes a message in `times` times, then waits for one refresh signal. -/
  | recvRefresh (push : Option Notification) (times : Nat)
  | client (ids : List UInt8)
  | close
  | isClosed
  | subscriberCount (m : MessageType)
  /-- Acts on a zone player; an action that could not be read gives its reply once the zone is
  found. -/
  | zone (id : UInt8) (a : Except Reply ZoneAction)
  /-- Sets a dial, or with no value describes it. -/
  | dial (d : Dial) (id : UInt8) (value : Option Float)
  | switch (id : UInt8) (enabled : Bool)
  /-- Snapshots the configured zones among `zones`. -/
  | snapshot (zones : List UInt8) (answers : List Notification) (close : Bool)
  | restore (zones : List UInt8)

/-- A running session: the bridge, and the configuration it was made from, if any. -/
structure Session where
  bridge : Bridge
  config : Option Config

namespace Session

/-- The session of a configuration; the configuration must pass its checks. -/
def ofConfig (c : Config) : Outcome Session := do
  pure { bridge := ← Bridge.ofConfig c, config := some c }

/-- The session of raw parts, made without any check. Without a client, the session listens on
the refresh channel itself, which words a lag its own way. -/
def ofParts (entry : String) (model : ModelSpec) (zones sources : IdMap) (volumeStep : Int) :
    Session :=
  let b := Bridge.build entry model zones sources volumeStep
  { bridge := { b with refresh := { b.refresh with teller := .channel } }, config := none }

/-- The place of the entity a step is about. -/
def place (s : Session) : EntityRef → Except String Nat
  | .zone id => (s.bridge.playerIndex? id).elim (.error "no such zone") .ok
  | .switch id => (s.bridge.switchIndex? id).elim (.error "no such switch") .ok
  | .dial d id => (s.bridge.dialIndex? d id).elim (.error "no such number") .ok

/-- Pushes a message in `times` times; gives how many subscribers were called in all. -/
def deliverTimes (b : Bridge) (n : Notification) : Nat → Bridge × Nat
  | 0 => (b, 0)
  | k + 1 =>
    let (b, c) := b.deliver n
    let (b, rest) := deliverTimes b n k
    (b, c + rest)

/-- Pushes messages in, in order. -/
def deliverAll (b : Bridge) (ns : List Notification) : Bridge :=
  ns.foldl (fun b n => (b.deliver n).1) b

/-- What happens while snapshot queries wait: the link is closed if asked, then the answers
are pushed in. -/
def meanwhile (answers : List Notification) (close : Bool) (b : Bridge) : Bridge :=
  deliverAll (if close then b.close else b) answers

/-- The unique ids of some entities. -/
def idsJson (es : List Entity) : Json := .array (es.map fun e => .string e.uniqueId)

/-- What a zone player tells the host about itself. -/
def infoJson (e : Entity) : Json :=
  match e with
  | .player x =>
    let st := x.tracked.state
    .obj [("zone_id", .ofNat x.tracked.zone.toNat),
      ("supported_features", .ofNat Player.supportedFeatures), ("device_info", x.device.toJson),
      ("is_on", .ofOption .bool st.power), ("volume_level", .ofOption .ofFloat st.volume),
      ("is_volume_muted", .ofOption .bool st.mute), ("source", .ofOption .string st.source),
      ("source_list", .array (st.sourceList.map .string))]
  | _ => .null

/-- The range, step and unit of a dial. -/
def dialInfoJson (e : Entity) : Outcome Json :=
  match e with
  | .dial x => do
    let r := x.tracked
    let (lo, hi) : Float × Float ← r.dial.hostRange r.scale
    pure (.obj [("min", .ofFloat lo), ("max", .ofFloat hi),
      ("step", .ofFloat (HostNumber.ofInt r.scale.step)),
      ("unit", if r.dial.isVolume then .string "dB" else .null), ("device_info", x.device.toJson)])
  | _ => pure .null

/-- The entities of one kind, in order. -/
def ofKind (b : Bridge) (p : Entity → Bool) : List Entity := b.entities.toList.filter p

/-- What the session's client reports about itself. -/
def clientJson (c : Config) (b : Bridge) (ids : List UInt8) : Json :=
  let players := ofKind b fun | .player _ => true | _ => false
  let switches := ofKind b fun | .loudness _ => true | _ => false
  let dials := ofKind b fun | .dial _ => true | _ => false
  .obj [("config", c.toJson), ("model", .string b.model.name), ("zones", idsJson players),
    ("switches", idsJson switches), ("numbers", idsJson dials),
    ("entities", idsJson b.entities.toList),
    ("zone_lookup", .array (ids.map fun id =>
      .ofOption (fun i => .string ((b.entity? i).elim "" Entity.uniqueId)) (b.playerIndex? id)))]

/-- Runs a step on a zone player. -/
def zoneStep (b : Bridge) (i : Nat) : ZoneAction → Bridge × Reply
  | .call c => let (b, r) := b.callPlayer i c; (b, .ofUnit r)
  | .snapshot answers close =>
    let (b, r) := b.snapshot [i] (meanwhile answers close)
    (b, .ofUnit r)
  | .restore => let (b, r) := b.restore [i]; (b, .ofUnit r)
  | .info => (b, .ok ((b.entity? i).elim .null infoJson))

/-- Runs the step on the entity a reference names, or refuses it if there is none. -/
def withEntity (s : Session) (e : EntityRef) (f : Nat → Bridge × Reply) : Session × Reply :=
  match s.place e with
  | .error why => (s, .refused why)
  | .ok i => let (b, r) := f i; ({ s with bridge := b }, r)

/-- Runs one step. -/
def step (s : Session) : SessionStep → Session × Reply
  | .entities => (s, .ok (idsJson s.bridge.entities.toList))
  | .attachAll => let (b, r) := s.bridge.attachAll; ({ s with bridge := b }, .ofUnit r)
  | .detachAll => ({ s with bridge := s.bridge.detachAll }, .ok .null)
  | .attach e => s.withEntity e fun i => let (b, r) := s.bridge.attach i; (b, .ofUnit r)
  | .detach e => s.withEntity e fun i => (s.bridge.detach i, .ok .null)
  | .state e => s.withEntity e fun i =>
    (s.bridge, .ofOutcome (fun j => j) ((s.bridge.entity? i).elim (pure .null) Entity.describe))
  | .deviceInfo e => s.withEntity e fun i =>
    (s.bridge, .ok ((s.bridge.entity? i).elim .null fun x =>
      .obj [("device_info", x.device.toJson), ("unique_id", .string x.uniqueId)]))
  | .deliver n times =>
    let (b, c) := deliverTimes s.bridge n times
    ({ s with bridge := b }, .ok (.ofNat c))
  | .deliverText text =>
    match Notification.parse text with
    | .error err => (s, .fail (.json err))
    | .ok n => let (b, c) := s.bridge.deliver n; ({ s with bridge := b }, .ok (.ofNat c))
  | .recvRefresh push times =>
    if s.config.isNone then (s, .refused "recv_refresh needs a config session") else
    let b := match push with
      | some n => (deliverTimes s.bridge n times).1
      | none => s.bridge
    let (r, refresh) := b.refresh.take
    let reply : Reply := match r with
      | .ok (some id) => .ok (.string id.uniqueId)
      | .ok none => .ok .null
      | .error e => .fail e
    ({ s with bridge := { b with refresh } }, reply)
  | .client ids =>
    match s.config with
    | none => (s, .refused "client needs a config session")
    | some c => (s, .ok (clientJson c s.bridge ids))
  | .close => ({ s with bridge := s.bridge.close }, .ok .null)
  | .isClosed => (s, .ok (.bool !s.bridge.link.isOpen))
  | .subscriberCount m => (s, .ok (.ofNat (s.bridge.link.subscriberCount m)))
  | .zone id a => s.withEntity (.zone id) fun i =>
    match a with
    | .ok a => zoneStep s.bridge i a
    | .error r => (s.bridge, r)
  | .dial d id none => s.withEntity (.dial d id) fun i =>
    (s.bridge, .ofOutcome (fun j => j) ((s.bridge.entity? i).elim (pure .null) dialInfoJson))
  | .dial d id (some v) => s.withEntity (.dial d id) fun i =>
    let (b, r) := s.bridge.setDial i v; (b, .ofUnit r)
  | .switch id enabled => s.withEntity (.switch id) fun i =>
    let (b, r) := s.bridge.setSwitch i enabled; (b, .ofUnit r)
  | .snapshot zones answers close =>
    if s.config.isNone then (s, .refused "snapshot needs a config session") else
    let (b, r) := s.bridge.snapshot (s.bridge.selectedPlayers zones) (meanwhile answers close)
    ({ s with bridge := b }, .ofUnit r)
  | .restore zones =>
    if s.config.isNone then (s, .refused "restore needs a config session") else
    let (b, r) := s.bridge.restore (s.bridge.selectedPlayers zones)
    ({ s with bridge := b }, .ofUnit r)

/-- The entity with an identity. -/
def entityWithId? (b : Bridge) (id : EntityId) : Option Entity := b.entities.find? (·.id == id)

/-- Runs a step and reports it: its result, the requests it sent, the refresh signals it caused
and the state of each entity that signalled. A step that could not be read gives the reply of
why it could not. A step that panicked reports nothing: the panic is the failure. -/
def runReported (s : Session) (st : Except Reply SessionStep) : Outcome (Session × Json) := do
  let before := s.bridge.link.sent.length
  let (s, reply) := match st with
    | .ok st => s.step st
    | .error r => (s, r)
  if let some o := s.bridge.panicked then throw (.panic o)
  if let .failed (.panic o) _ := reply then throw (.panic o)
  let (signals, refresh) := s.bridge.refresh.drain
  let s := { s with bridge := { s.bridge with refresh } }
  let signalled := signals.filterMap fun | .ok id => some id | .error _ => none
  let states ← (signalled.filterMap fun id => entityWithId? s.bridge id).mapM fun e => do
    pure (e.id.uniqueId, ← e.describe)
  pure (s, .obj [("result", reply.result),
    ("requests", .array ((s.bridge.link.sent.drop before).map Request.toJson)),
    ("refresh", .array (signals.map fun
      | .ok id => .string id.uniqueId
      | .error e => Reply.failureJson e [])),
    ("states", .obj states)])

/-- Runs the steps in order and reports each; a panic ends the run with that panic. -/
def run (s : Session) : List (Except Reply SessionStep) → Outcome (List Json)
  | [] => pure []
  | st :: rest => do
    let (s, j) ← s.runReported st
    pure (j :: (← s.run rest))

end Session

end ZoneBridge
