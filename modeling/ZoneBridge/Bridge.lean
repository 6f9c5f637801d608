import ZoneBridge.Entity
import ZoneBridge.Broadcast

/-!
# The bridge of one amplifier

A `Bridge` joins the link to one amplifier, the entities made for its configured zones and
sources, and the channel on which entities signal a refresh. Entities are made in a fixed order:
the zone players by zone id, the loudness switches by zone id, the seven dials of each zone in
zone order, and the gain of each source in source order. Subscribers of the link are named by
their place in this order.

Asking the amplifier and waiting for its answer is split in two: the queries are sent and leave
tickets; what happens meanwhile (the amplifier's answers) is given as a function on the bridge;
then the queries still waiting time out, and the tickets are read off.

An entity whose tracker panics on a pushed message stops the program: the bridge keeps the first
such panic (`panicked`), and whatever it computes after it is never shown.
-/

namespace ZoneBridge

/-- The link, entities and refresh channel of one amplifier. -/
structure Bridge where
  model : ModelSpec
  link : Link Nat := {}
  refresh : Broadcast EntityId
  entities : Array Entity
  /-- The first panic of an entity's tracker: the program stopped there. -/
  panicked : Option Overflow := none

/-- The first failure of two outcomes, in order. -/
def Outcome.andThen (a b : Outcome Unit) : Outcome Unit :=
  match a with
  | .ok () => b
  | .error e => .error e

namespace Bridge

/-- The bridge of a model, a namespace, zones and sources, made without any check. -/
def build (entry : String) (model : ModelSpec) (zones sources : IdMap) (volumeStep : Int) :
    Bridge :=
  let sm : SourceMap := ⟨sources⟩
  let players := zones.map fun (z, n) => Entity.ofPlayer entry model z n sm volumeStep
  let switches := zones.map fun (z, n) => Entity.ofLoudness entry model z n
  let zoneDials := zones.flatMap fun (z, n) => Dial.zoneDials.map (Entity.ofDial entry model z n)
  let sourceDials :=
    sources.flatMap fun (s, n) => Dial.sourceDials.map (Entity.ofDial entry model s n)
  { model, refresh := Broadcast.withCapacity 100
    entities := (players ++ switches ++ zoneDials ++ sourceDials).toArray }

/-- The bridge of a configuration, once it is checked. -/
def ofConfig (c : Config) : Outcome Bridge := do
  c.validate
  let model ← c.modelSpec
  pure (build (c.entryId.getD "") model c.effectiveZones c.effectiveSources c.volumeStep)

/-- The entity at a place. -/
def entity? (b : Bridge) (i : Nat) : Option Entity := b.entities[i]?

/-- Replaces the entity at a place. -/
def setEntity (b : Bridge) (i : Nat) (e : Entity) : Bridge :=
  { b with entities := b.entities.setIfInBounds i e }

/-- The place of the first entity satisfying a test. -/
def findIndex? (b : Bridge) (p : Entity → Bool) : Option Nat := b.entities.findIdx? p

/-- The place of the zone player of a zone. -/
def playerIndex? (b : Bridge) (zone : UInt8) : Option Nat :=
  b.findIndex? fun
    | .player x => x.tracked.zone == zone
    | _ => false

/-- The place of the loudness switch of a zone. -/
def switchIndex? (b : Bridge) (zone : UInt8) : Option Nat :=
  b.findIndex? fun
    | .loudness x => x.binding.id.target.id == zone
    | _ => false

/-- The place of a dial of a zone or source. -/
def dialIndex? (b : Bridge) (d : Dial) (id : UInt8) : Option Nat :=
  b.findIndex? fun
    | .dial x => x.tracked.dial == d && x.binding.id.target.id == id
    | _ => false

/-- Hands a pushed message to the entity at a place; an applied message signals a refresh, and
a panic is kept unless one came before. -/
def handleAt (b : Bridge) (n : Notification) (i : Nat) : Bridge :=
  match b.entity? i with
  | none => b
  | some e =>
    let (d, e') := e.handle n
    let b' := b.setEntity i e'
    match d with
    | .applied => { b' with refresh := b'.refresh.send e'.id }
    | .panicked o => { b' with panicked := b'.panicked.or (some o) }
    | _ => b'

/-- Takes a pushed message: it answers waiting queries and goes to every subscriber of its type
in turn. Gives how many subscribers were called. -/
def deliver (b : Bridge) (n : Notification) : Bridge × Nat :=
  let (link, whos) := b.link.deliver n
  (whos.foldl (fun b i => b.handleAt n i) { b with link }, whos.length)

/-- Attaches the entity at a place: it subscribes, then sends its initial queries up to the
first that is refused. -/
def attach (b : Bridge) (i : Nat) : Bridge × Outcome Unit :=
  match b.entity? i with
  | none => (b, .ok ())
  | some e =>
    match e.binding.attach b.link i with
    | .error err => (b, .error err)
    | .ok (bd, link) =>
      let (link, r) := link.enqueueAll (e.attachQueries.map .query)
      ({ b with link } |>.setEntity i (e.setBinding bd), r)

/-- Attaches the entities at the given places in turn; every one is tried, and the first
failure is the result. -/
def attachEach (b : Bridge) (is : List Nat) : Bridge × Outcome Unit :=
  is.foldl (fun (b, r) i => let (b', r') := b.attach i; (b', r.andThen r')) (b, .ok ())

/-- Attaches every entity, in order. -/
def attachAll (b : Bridge) : Bridge × Outcome Unit := b.attachEach (List.range b.entities.size)

/-- Detaches the entity at a place. -/
def detach (b : Bridge) (i : Nat) : Bridge :=
  match b.entity? i with
  | none => b
  | some e =>
    let (bd, link) := e.binding.detach b.link
    { b with link } |>.setEntity i (e.setBinding bd)

/-- Detaches every entity, in order. -/
def detachAll (b : Bridge) : Bridge := (List.range b.entities.size).foldl detach b

/-- Sends what the entity at a place computed: nothing, a failure, or a request, which needs
the entity to hold the link. -/
def sendFrom (b : Bridge) (i : Nat) (r : Outcome (Option Request)) : Bridge × Outcome Unit :=
  match r, b.entity? i with
  | .error e, _ => (b, .error e)
  | .ok none, _ => (b, .ok ())
  | .ok (some _), none => (b, .ok ())
  | .ok (some req), some e =>
    match e.binding.ready with
    | .error err => (b, .error err)
    | .ok () =>
      match b.link.enqueue req with
      | .ok link => ({ b with link }, .ok ())
      | .error err => (b, .error err)

/-- A call of the host on the zone player at a place. -/
def callPlayer (b : Bridge) (i : Nat) (c : PlayerCall) : Bridge × Outcome Unit :=
  match b.entity? i with
  | some (.player x) => b.sendFrom i (x.tracked.requestFor c)
  | _ => (b, .ok ())

/-- Turns the loudness switch at a place on or off. -/
def setSwitch (b : Bridge) (i : Nat) (enabled : Bool) : Bridge × Outcome Unit :=
  match b.entity? i with
  | some e => b.sendFrom i (.ok (some (.command (.setLoudnessComp e.id.target.id enabled))))
  | none => (b, .ok ())

/-- Sets the dial at a place to a host value: the command is computed first, then sent. -/
def setDial (b : Bridge) (i : Nat) (v : Float) : Bridge × Outcome Unit :=
  match b.entity? i with
  | some (.dial x) =>
    b.sendFrom i ((fun c => some (.command c)) <$> x.tracked.dial.command x.binding.id.target.id v
      x.tracked.scale)
  | _ => (b, .ok ())

/-- The zone player at a place asks for its zone's status; gives the ticket of the wait. -/
def askStatus (b : Bridge) (i : Nat) : Bridge × Outcome Nat :=
  match b.entity? i with
  | some (.player x) =>
    match x.binding.ready with
    | .error e => (b, .error e)
    | .ok () =>
      match b.link.ask ⟨.zoneStatus, x.tracked.zone⟩ with
      | .ok (link, t) => ({ b with link }, .ok t)
      | .error e => (b, .error e)
  | _ => (b, .error .connectionUnavailable)

/-- Saves the status a snapshot's ticket settled with, in the zone player at a place. -/
def saveStatus (b : Bridge) (i : Nat) (ticket : Outcome Nat) : Bridge × Outcome Unit :=
  match ticket with
  | .error e => (b, .error e)
  | .ok t =>
    match b.link.outcome t, b.entity? i with
    | some (.ok (.zoneStatus s)), some (.player x) =>
      (b.setEntity i (.player { x with tracked := { x.tracked with saved := some s } }), .ok ())
    | some (.ok e), _ => (b, .error (.unexpectedEvent (some .zoneStatus) e.messageType))
    | some (.error e), _ => (b, .error e)
    | none, _ => (b, .error .timeout)

/-- Snapshots the zone players at the given places: each asks for its zone's status, then
`meanwhile` happens, then the queries still waiting time out. Every status that came is saved;
the first failure in order is the result. -/
def snapshot (b : Bridge) (is : List Nat) (meanwhile : Bridge → Bridge) : Bridge × Outcome Unit :=
  let (b, tickets) := is.foldl (fun (b, ts) i => let (b', t) := b.askStatus i; (b', ts ++ [(i, t)]))
    (b, [])
  let b := meanwhile b
  let b := { b with link := b.link.expire }
  tickets.foldl (fun (b, r) (i, t) => let (b', r') := b.saveStatus i t; (b', r.andThen r')) (b, .ok ())

/-- Brings the zone at a place back to its saved status, if a snapshot was taken. -/
def restoreAt (b : Bridge) (i : Nat) : Bridge × Outcome Unit :=
  match b.entity? i with
  | some (.player x) =>
    match x.tracked.saved with
    | none => (b, .ok ())
    | some s =>
      match x.binding.ready with
      | .error e => (b, .error e)
      | .ok () =>
        let (link, r) := b.link.enqueueAll (x.tracked.restoreRequests s)
        ({ b with link }, r)
  | _ => (b, .ok ())

/-- Restores the zones at the given places in turn; the first failure is the result. -/
def restore (b : Bridge) (is : List Nat) : Bridge × Outcome Unit :=
  is.foldl (fun (b, r) i => let (b', r') := b.restoreAt i; (b', r.andThen r')) (b, .ok ())

/-- Closes the link. -/
def close (b : Bridge) : Bridge := { b with link := b.link.close }

/-- The places of the zone players of the given zones, by ascending zone. -/
def selectedPlayers (b : Bridge) (zones : List UInt8) : List Nat :=
  (List.range b.entities.size).filter fun i =>
    match b.entity? i with
    | some (.player x) => zones.contains x.tracked.zone
    | _ => false

end Bridge

end ZoneBridge
