import ZoneBridge.Json.Decode
import ZoneBridge.Decimal.Read
import ZoneBridge.Balance

/-!
# Push messages

The amplifier reports its state in push messages of five types. Each carries one event, a
record about one zone or one source: its *origin*. A `Notification` pairs the message type with
a payload whose field `event` holds the event; reading the event checks it against the record of
its type (`DeviceEvent.parse`), and writing an event back (`Notification.ofEvent`) gives a
payload of the same shape with every field present.

The permitted sources of a zone are listed as texts `SOURCE<n>`; `sourceIds` keeps the `n` of
those entries whose rest is an optional `+` and decimal digits of a value up to 255.
-/

namespace ZoneBridge

/-- The five types of push message. -/
inductive MessageType where
  | zoneStatus
  | zoneConfiguration
  | zoneEqStatus
  | zoneVolumeConfiguration
  | sourceConfiguration
deriving DecidableEq, Repr, Inhabited

namespace MessageType

/-- All message types, in declaration order. -/
def all : List MessageType :=
  [.zoneStatus, .zoneConfiguration, .zoneEqStatus, .zoneVolumeConfiguration, .sourceConfiguration]

/-- The name of a message type on the wire. -/
def wireName : MessageType → String
  | .zoneStatus => "zone_status"
  | .zoneConfiguration => "zone_configuration"
  | .zoneEqStatus => "zone_eq_status"
  | .zoneVolumeConfiguration => "zone_volume_configuration"
  | .sourceConfiguration => "source_configuration"

/-- The wire names, in declaration order. -/
def wireNames : List String := all.map wireName

/-- The name of a message type in messages to people. -/
def title : MessageType → String
  | .zoneStatus => "ZoneStatus"
  | .zoneConfiguration => "ZoneConfiguration"
  | .zoneEqStatus => "ZoneEqStatus"
  | .zoneVolumeConfiguration => "ZoneVolumeConfiguration"
  | .sourceConfiguration => "SourceConfiguration"

/-- The message type at a position of `all`. -/
def ofIndex (i : Nat) : MessageType := all.getD i .zoneStatus

/-- Reads a message type: its wire name, or an object with the name as its one key. -/
def decode : Decoder MessageType := fun v => ofIndex <$> Decoder.unitVariant wireNames false v

@[simp] theorem ofIndex_idxOf (m : MessageType) : ofIndex (wireNames.idxOf m.wireName) = m := by
  cases m <;> rfl

end MessageType

/-- Whether an entity stands for a zone or a source. -/
inductive EntityKind where
  | zone
  | source
deriving DecidableEq, Repr, Inhabited

/-- The name of an entity kind. -/
def EntityKind.name : EntityKind → String
  | .zone => "zone"
  | .source => "source"

/-- One zone or one source of the amplifier. -/
structure Target where
  kind : EntityKind
  id : UInt8
deriving DecidableEq, Repr, Inhabited

namespace Target

/-- The zone of an id. -/
def zone (id : UInt8) : Target := ⟨.zone, id⟩

/-- The source of an id. -/
def source (id : UInt8) : Target := ⟨.source, id⟩

/-- How a target is shown: `zone 5`. -/
def text (t : Target) : String := t.kind.name ++ " " ++ Decimal.digitText t.id.toNat

/-- The target as data: `{"kind": "zone", "id": 5}`. -/
def toJson (t : Target) : Json := .obj [("kind", .string t.kind.name), ("id", .ofNat t.id.toNat)]

end Target

/-- Power, source, volume and mute of a zone. -/
structure ZoneStatus where
  zone : UInt8
  power : Bool
  source : Option UInt8 := none
  volume : Option Int := none
  mute : Bool := false
deriving DecidableEq, Repr, Inhabited

/-- Name, state and permitted sources of a zone. -/
structure ZoneConfiguration where
  zone : UInt8
  enabled : Bool
  name : String
  sources : List String := []
deriving DecidableEq, Repr, Inhabited

/-- Tone, loudness compensation and balance of a zone. -/
structure ZoneEqStatus where
  zone : UInt8
  bass : Int
  treble : Int
  loudcmp : Bool
  balancePosition : BalancePosition
  balance : Int
deriving DecidableEq, Repr, Inhabited

/-- The volume presets of a zone. -/
structure ZoneVolumeConfiguration where
  zone : UInt8
  maxVol : Int
  iniVol : Int
  pageVol : Int
  partyVol : Int
  volRst : Bool := false
deriving DecidableEq, Repr, Inhabited

/-- Name, state and gain of a source. -/
structure SourceConfiguration where
  source : UInt8
  enabled : Bool
  name : String
  gain : Int
deriving DecidableEq, Repr, Inhabited

/-- The event of a push message. -/
inductive DeviceEvent where
  | zoneStatus (e : ZoneStatus)
  | zoneConfiguration (e : ZoneConfiguration)
  | zoneEqStatus (e : ZoneEqStatus)
  | zoneVolumeConfiguration (e : ZoneVolumeConfiguration)
  | sourceConfiguration (e : SourceConfiguration)
deriving DecidableEq, Repr, Inhabited

/-- Whether a text is an optional `+` followed by one or more ASCII digits. -/
def isUnsignedText (cs : List Char) : Bool :=
  let ds := match cs with
    | '+' :: rest => rest
    | other => other
  !ds.isEmpty && ds.all Char.isDigit

/-- Reads an 8-bit unsigned integer: an optional `+`, then decimal digits of a value up to 255. -/
def readU8 (s : String) : Option UInt8 :=
  let cs := s.toList
  if isUnsignedText cs then
    let n := Decimal.digitsValue (cs.filter Char.isDigit)
    if n ≤ 255 then some n.toUInt8 else none
  else none

/-- The ids of the permitted sources `SOURCE<n>` of a list, in order and with repetitions. -/
def sourceIds (sources : List String) : List UInt8 :=
  sources.filterMap fun s => if s.startsWith "SOURCE" then readU8 (s.drop 6).toString else none

namespace DeviceEvent

/-- The message type of an event. -/
def messageType : DeviceEvent → MessageType
  | .zoneStatus _ => .zoneStatus
  | .zoneConfiguration _ => .zoneConfiguration
  | .zoneEqStatus _ => .zoneEqStatus
  | .zoneVolumeConfiguration _ => .zoneVolumeConfiguration
  | .sourceConfiguration _ => .sourceConfiguration

/-- The zone or source an event is about. -/
def origin : DeviceEvent → Target
  | .zoneStatus e => .zone e.zone
  | .zoneConfiguration e => .zone e.zone
  | .zoneEqStatus e => .zone e.zone
  | .zoneVolumeConfiguration e => .zone e.zone
  | .sourceConfiguration e => .source e.source

/-- The record of an event, every field written. -/
def toJson : DeviceEvent → Json
  | .zoneStatus e => .obj [("zone", .ofNat e.zone.toNat), ("power", .bool e.power),
      ("source", .ofOption (fun s => .ofNat s.toNat) e.source), ("volume", .ofOption .ofInt e.volume),
      ("mute", .bool e.mute)]
  | .zoneConfiguration e => .obj [("zone", .ofNat e.zone.toNat), ("enabled", .bool e.enabled),
      ("name", .string e.name), ("sources", .array (e.sources.map .string))]
  | .zoneEqStatus e => .obj [("zone", .ofNat e.zone.toNat), ("bass", .ofInt e.bass),
      ("treble", .ofInt e.treble), ("loudcmp", .bool e.loudcmp),
      ("balance_position", .string e.balancePosition.letter), ("balance", .ofInt e.balance)]
  | .zoneVolumeConfiguration e => .obj [("zone", .ofNat e.zone.toNat),
      ("max_vol", .ofInt e.maxVol), ("ini_vol", .ofInt e.iniVol), ("page_vol", .ofInt e.pageVol),
      ("party_vol", .ofInt e.partyVol), ("vol_rst", .bool e.volRst)]
  | .sourceConfiguration e => .obj [("source", .ofNat e.source.toNat), ("enabled", .bool e.enabled),
      ("name", .string e.name), ("gain", .ofInt e.gain)]

/-- An event with its message type and origin, as data. -/
def describe (e : DeviceEvent) : Json :=
  .obj [("message_type", .string e.messageType.wireName), ("event", e.toJson),
    ("origin", e.origin.toJson), ("origin_display", .string e.origin.text)]

end DeviceEvent

/-- Reads a balance position: its letter, or an object with the letter as its one key. -/
def BalancePosition.decode (buffered : Bool) : Decoder BalancePosition := fun v =>
  BalancePosition.ofIndex <$> Decoder.unitVariant BalancePosition.letters buffered v

namespace ZoneStatus

/-- How a zone status is read. -/
def record : Record ZoneStatus where
  title := "struct ZoneStatus"
  blank := { zone := 0, power := false }
  fields := [
    { name := "zone", put := fun v r => do pure { r with zone := ← Decoder.u8 v } },
    { name := "power", put := fun v r => do pure { r with power := ← Decoder.bool v } },
    { name := "source", optional := true,
      put := fun v r => do pure { r with source := ← Decoder.option Decoder.u8 v } },
    { name := "volume", optional := true,
      put := fun v r => do pure { r with volume := ← Decoder.option Decoder.i32 v } },
    { name := "mute", optional := true, put := fun v r => do pure { r with mute := ← Decoder.bool v } }]

end ZoneStatus

namespace ZoneConfiguration

/-- How a zone configuration is read. -/
def record : Record ZoneConfiguration where
  title := "struct ZoneConfiguration"
  blank := { zone := 0, enabled := false, name := "" }
  fields := [
    { name := "zone", put := fun v r => do pure { r with zone := ← Decoder.u8 v } },
    { name := "enabled", put := fun v r => do pure { r with enabled := ← Decoder.bool v } },
    { name := "name", put := fun v r => do pure { r with name := ← Decoder.string v } },
    { name := "sources", optional := true,
      put := fun v r => do pure { r with sources := ← Decoder.list Decoder.string v } }]

end ZoneConfiguration

namespace ZoneEqStatus

/-- How a zone tone status is read. -/
def record : Record ZoneEqStatus where
  title := "struct ZoneEqStatus"
  blank := { zone := 0, bass := 0, treble := 0, loudcmp := false, balancePosition := .center,
             balance := 0 }
  fields := [
    { name := "zone", put := fun v r => do pure { r with zone := ← Decoder.u8 v } },
    { name := "bass", put := fun v r => do pure { r with bass := ← Decoder.i32 v } },
    { name := "treble", put := fun v r => do pure { r with treble := ← Decoder.i32 v } },
    { name := "loudcmp", put := fun v r => do pure { r with loudcmp := ← Decoder.bool v } },
    { name := "balance_position",
      put := fun v r => do pure { r with balancePosition := ← BalancePosition.decode false v } },
    { name := "balance", put := fun v r => do pure { r with balance := ← Decoder.i32 v } }]

end ZoneEqStatus

namespace ZoneVolumeConfiguration

/-- How a zone's volume presets are read. -/
def record : Record ZoneVolumeConfiguration where
  title := "struct ZoneVolumeConfiguration"
  blank := { zone := 0, maxVol := 0, iniVol := 0, pageVol := 0, partyVol := 0 }
  fields := [
    { name := "zone", put := fun v r => do pure { r with zone := ← Decoder.u8 v } },
    { name := "max_vol", put := fun v r => do pure { r with maxVol := ← Decoder.i32 v } },
    { name := "ini_vol", put := fun v r => do pure { r with iniVol := ← Decoder.i32 v } },
    { name := "page_vol", put := fun v r => do pure { r with pageVol := ← Decoder.i32 v } },
    { name := "party_vol", put := fun v r => do pure { r with partyVol := ← Decoder.i32 v } },
    { name := "vol_rst", optional := true,
      put := fun v r => do pure { r with volRst := ← Decoder.bool v } }]

end ZoneVolumeConfiguration

namespace SourceConfiguration

/-- How a source configuration is read. -/
def record : Record SourceConfiguration where
  title := "struct SourceConfiguration"
  blank := { source := 0, enabled := false, name := "", gain := 0 }
  fields := [
    { name := "source", put := fun v r => do pure { r with source := ← Decoder.u8 v } },
    { name := "enabled", put := fun v r => do pure { r with enabled := ← Decoder.bool v } },
    { name := "name", put := fun v r => do pure { r with name := ← Decoder.string v } },
    { name := "gain", put := fun v r => do pure { r with gain := ← Decoder.i32 v } }]

end SourceConfiguration

/-- Why the event of a push message cannot be read. -/
inductive EventFault where
  /-- The payload is not an object with a field `event`. -/
  | missingPayload
  /-- The event does not fit the record of the message type. -/
  | invalid (messageType : MessageType) (error : JsonError)

/-- The wording of an event fault. -/
def EventFault.message : EventFault → String
  | .missingPayload => "missing event payload"
  | .invalid m e => m.title ++ ": " ++ e.message

namespace DeviceEvent

/-- Reads the event of a payload as a record of the given message type. -/
def parse (m : MessageType) (payload : Json) : Except EventFault DeviceEvent :=
  match payload.get? "event" with
  | none => .error .missingPayload
  | some e =>
    let read : Except JsonError DeviceEvent := match m with
      | .zoneStatus => zoneStatus <$> ZoneStatus.record.decode e
      | .zoneConfiguration => zoneConfiguration <$> ZoneConfiguration.record.decode e
      | .zoneEqStatus => zoneEqStatus <$> ZoneEqStatus.record.decode e
      | .zoneVolumeConfiguration => zoneVolumeConfiguration <$> ZoneVolumeConfiguration.record.decode e
      | .sourceConfiguration => sourceConfiguration <$> SourceConfiguration.record.decode e
    read.mapError (.invalid m)

end DeviceEvent

/-- A push message: its type and its payload. -/
structure Notification where
  messageType : MessageType
  payload : Json
deriving Inhabited

namespace Notification

/-- The event of a push message. -/
def event (n : Notification) : Except EventFault DeviceEvent := DeviceEvent.parse n.messageType n.payload

/-- The push message of an event: its type, and the event under `event`. -/
def ofEvent (e : DeviceEvent) : Notification := ⟨e.messageType, .obj [("event", e.toJson)]⟩

/-- How a push message is read from a data value. -/
def record : Record Notification where
  title := "struct Notification"
  blank := ⟨.zoneStatus, .null⟩
  fields := [
    { name := "message_type",
      put := fun v r => do pure { r with messageType := ← MessageType.decode v } },
    { name := "payload", put := fun v r => pure { r with payload := v } }]

/-- Reads a push message from its type and payload given as data values. -/
def decode (messageType payload : Json) : Except JsonError Notification :=
  record.decode (.obj [("message_type", messageType), ("payload", payload)])

end Notification

end ZoneBridge
