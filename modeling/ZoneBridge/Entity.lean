import ZoneBridge.Entity.Player
import ZoneBridge.Entity.Loudness
import ZoneBridge.Entity.Dial

/-!
# Entities

The host sees three kinds of entity per amplifier: a media player per zone, a loudness switch
per zone, and a numeric control (`Dial`) per zone and dial of a zone, and per source for its
gain. Every entity has a name, the amplifier's device, a `Binding` to the link and the state it
keeps from events.
-/

namespace ZoneBridge

/-- An entity with state of type `τ`. -/
structure Bound (τ : Type) where
  name : String
  device : DeviceInfo
  binding : Binding
  tracked : τ

/-- An entity of the host. -/
inductive Entity where
  | player (b : Bound Player)
  | loudness (b : Bound LoudnessReading)
  | dial (b : Bound DialReading)

namespace Entity

/-- The zone player of a zone. -/
def ofPlayer (entry : String) (model : ModelSpec) (zone : UInt8) (zoneName : String)
    (sources : SourceMap) (volumeStep : Int) : Entity :=
  .player { name := zoneName, device := .ofModel entry model
            binding := { id := ⟨entry, .zone zone, "zone"⟩
                         messageTypes := [.zoneStatus, .zoneConfiguration, .zoneEqStatus] }
            tracked := Player.create zone model sources volumeStep }

/-- The loudness switch of a zone. -/
def ofLoudness (entry : String) (model : ModelSpec) (zone : UInt8) (zoneName : String) : Entity :=
  .loudness { name := zoneName ++ " Loudness Compensation", device := .ofModel entry model
              binding := { id := ⟨entry, .zone zone, "loudcmp"⟩, messageTypes := [.zoneEqStatus] }
              tracked := {} }

/-- A dial of a zone or source. -/
def ofDial (entry : String) (model : ModelSpec) (id : UInt8) (ownerName : String) (d : Dial) :
    Entity :=
  .dial { name := ownerName ++ " " ++ d.label, device := .ofModel entry model
          binding := { id := ⟨entry, ⟨d.entityKind, id⟩, d.controlName⟩
                       messageTypes := [d.messageType] }
          tracked := { dial := d, scale := model.scale d.controlKind } }

/-- The entity's binding. -/
def binding : Entity → Binding
  | .player b => b.binding
  | .loudness b => b.binding
  | .dial b => b.binding

/-- The entity with another binding. -/
def setBinding (e : Entity) (b : Binding) : Entity :=
  match e with
  | .player x => .player { x with binding := b }
  | .loudness x => .loudness { x with binding := b }
  | .dial x => .dial { x with binding := b }

/-- The entity's name. -/
def name : Entity → String
  | .player b => b.name
  | .loudness b => b.name
  | .dial b => b.name

/-- The amplifier the entity belongs to. -/
def device : Entity → DeviceInfo
  | .player b => b.device
  | .loudness b => b.device
  | .dial b => b.device

/-- The entity's identity. -/
def id (e : Entity) : EntityId := e.binding.id

/-- The id under which the host knows the entity. -/
def uniqueId (e : Entity) : String := e.id.uniqueId

/-- The queries the entity sends on attaching, to learn its initial state. -/
def attachQueries (e : Entity) : List Query :=
  match e with
  | .player b => b.tracked.attachQueries
  | .loudness _ => [⟨.zoneEqStatus, e.id.target.id⟩]
  | .dial b => [b.tracked.dial.query e.id.target.id]

/-- Hands a pushed message to the entity. -/
def handle (e : Entity) (n : Notification) : Delivery × Entity :=
  match e with
  | .player x =>
    let (d, b, t) := x.binding.handle x.tracked n
    (d, .player { x with binding := b, tracked := t })
  | .loudness x =>
    let (d, b, t) := x.binding.handle x.tracked n
    (d, .loudness { x with binding := b, tracked := t })
  | .dial x =>
    let (d, b, t) := x.binding.handle x.tracked n
    (d, .dial { x with binding := b, tracked := t })

/-- The confirmed value of a dial, its host range and step, as the host stores them. -/
def dialJson (x : Bound DialReading) : Outcome Json := do
  let r := x.tracked
  let (lo, hi) : Float × Float ← r.dial.hostRange r.scale
  let t := x.binding.id.target
  pure (.obj [("value", .ofOption .ofFloat r.value), ("min", .ofFloat lo), ("max", .ofFloat hi),
    ("step", .ofFloat (HostNumber.ofInt r.scale.step)),
    ("unit_of_measurement", if r.dial.isVolume then .string "dB" else .null),
    (t.kind.name ++ "_id", .ofNat t.id.toNat)])

/-- The state the host stores for the entity. -/
def stateJson : Entity → Outcome Json
  | .player x => pure x.tracked.stateJson
  | .loudness x =>
    pure (.obj [("state", .string (Player.powerWord x.tracked.enabled)),
      ("zone_id", .ofNat x.binding.id.target.id.toNat)])
  | .dial x => dialJson x

/-- A full description of the entity: its ids, name, lifecycle, stored state, and what its
kind keeps besides. -/
def describe (e : Entity) : Outcome Json := do
  let b := e.binding
  let base := [("unique_id", .string e.uniqueId), ("name", .string e.name),
    ("available", .bool b.available), ("lifecycle", .string b.lifecycle.name),
    ("state", ← e.stateJson)]
  match e with
  | .player x => pure (.obj (base ++ [("zone_state", x.tracked.state.toJson)]))
  | .loudness x => pure (.obj (base ++ [("is_on", .ofOption .bool x.tracked.enabled)]))
  | .dial x => pure (.obj (base ++ [("value", .ofOption .ofFloat x.tracked.value)]))

end Entity

end ZoneBridge
