import ZoneBridge.Event

/-!
# Outbound requests

What the bridge sends to the amplifier is a `Request`: a `Command` that changes something, or a
`Query` that asks the amplifier to push one message about one zone or source. On the wire a
request is an object with one key, `command` or `query`, whose value names the variant in a
field of the same name (`{"command": {"command": "set_power", "zone": 1, "on": true}}`) next to
the variant's own fields.
-/

namespace ZoneBridge

/-- A change the amplifier is asked to make. -/
inductive Command where
  | setPower (zone : UInt8) (on : Bool)
  | setVolume (zone : UInt8) (volume : Int)
  | setMute (zone : UInt8) (mute : Bool)
  | setSource (zone : UInt8) (source : UInt8)
  | setBass (zone : UInt8) (bass : Int)
  | setTreble (zone : UInt8) (treble : Int)
  | setBalance (zone : UInt8) (position : BalancePosition) (balance : Int)
  | setLoudnessComp (zone : UInt8) (enabled : Bool)
  | setSourceGain (source : UInt8) (gain : Int)
  | zoneVolumeMax (zone : UInt8) (volume : Int)
  | zoneVolumeInitial (zone : UInt8) (volume : Int)
  | zoneVolumePage (zone : UInt8) (volume : Int)
  | zoneVolumeParty (zone : UInt8) (volume : Int)
  | pageOn
  | pageOff
deriving DecidableEq, Repr, Inhabited

/-- A request for the amplifier to push one message about one zone or source. -/
structure Query where
  /-- The type of the message asked for. -/
  messageType : MessageType
  /-- The zone, or for a source configuration the source. -/
  id : UInt8
deriving DecidableEq, Repr, Inhabited

/-- What the bridge sends to the amplifier. -/
inductive Request where
  | command (c : Command)
  | query (q : Query)
deriving DecidableEq, Repr, Inhabited

namespace Query

/-- The zone or source the answer will be about. -/
def target (q : Query) : Target :=
  if q.messageType == .sourceConfiguration then .source q.id else .zone q.id

/-- The name of the id field: `source` for a source configuration, `zone` otherwise. -/
def idField (m : MessageType) : String :=
  if m == .sourceConfiguration then "source" else "zone"

/-- The query as data. -/
def toJson (q : Query) : Json :=
  .obj [("query", .string q.messageType.wireName), (idField q.messageType, .ofNat q.id.toNat)]

/-- How the fields of a query of one message type are read. -/
def record (m : MessageType) : Record UInt8 where
  title := "struct variant Query::" ++ m.title
  blank := 0
  fields := [{ name := idField m, put := fun v _ => Decoder.u8 v }]

/-- Reads a query: the message type under `query`, the id under `zone` or `source`. -/
def decode : Decoder Query := fun v => do
  let (i, content) ← Decoder.tagged "query" "Query" MessageType.wireNames v
  let m := MessageType.ofIndex i
  pure ⟨m, ← (record m).decodeIn true content⟩

end Query

namespace Command

/-- The wire names of the commands, in declaration order. -/
def names : List String :=
  ["set_power", "set_volume", "set_mute", "set_source", "set_bass", "set_treble", "set_balance",
   "set_loudness_comp", "set_source_gain", "zone_volume_max", "zone_volume_initial",
   "zone_volume_page", "zone_volume_party", "page_on", "page_off"]

/-- The titles of the commands in messages to people, in declaration order. -/
def titles : List String :=
  ["SetPower", "SetVolume", "SetMute", "SetSource", "SetBass", "SetTreble", "SetBalance",
   "SetLoudnessComp", "SetSourceGain", "ZoneVolumeMax", "ZoneVolumeInitial", "ZoneVolumePage",
   "ZoneVolumeParty", "PageOn", "PageOff"]

/-- The wire name of a command. -/
def name : Command → String
  | .setPower .. => "set_power"
  | .setVolume .. => "set_volume"
  | .setMute .. => "set_mute"
  | .setSource .. => "set_source"
  | .setBass .. => "set_bass"
  | .setTreble .. => "set_treble"
  | .setBalance .. => "set_balance"
  | .setLoudnessComp .. => "set_loudness_comp"
  | .setSourceGain .. => "set_source_gain"
  | .zoneVolumeMax .. => "zone_volume_max"
  | .zoneVolumeInitial .. => "zone_volume_initial"
  | .zoneVolumePage .. => "zone_volume_page"
  | .zoneVolumeParty .. => "zone_volume_party"
  | .pageOn => "page_on"
  | .pageOff => "page_off"

/-- The fields of a command besides its name. -/
def fields : Command → List (String × Json)
  | .setPower z on => [("zone", .ofNat z.toNat), ("on", .bool on)]
  | .setVolume z v => [("zone", .ofNat z.toNat), ("volume", .ofInt v)]
  | .setMute z m => [("zone", .ofNat z.toNat), ("mute", .bool m)]
  | .setSource z s => [("zone", .ofNat z.toNat), ("source", .ofNat s.toNat)]
  | .setBass z b => [("zone", .ofNat z.toNat), ("bass", .ofInt b)]
  | .setTreble z t => [("zone", .ofNat z.toNat), ("treble", .ofInt t)]
  | .setBalance z p b =>
    [("zone", .ofNat z.toNat), ("position", .string p.letter), ("balance", .ofInt b)]
  | .setLoudnessComp z e => [("zone", .ofNat z.toNat), ("enabled", .bool e)]
  | .setSourceGain s g => [("source", .ofNat s.toNat), ("gain", .ofInt g)]
  | .zoneVolumeMax z v => [("zone", .ofNat z.toNat), ("volume", .ofInt v)]
  | .zoneVolumeInitial z v => [("zone", .ofNat z.toNat), ("volume", .ofInt v)]
  | .zoneVolumePage z v => [("zone", .ofNat z.toNat), ("volume", .ofInt v)]
  | .zoneVolumeParty z v => [("zone", .ofNat z.toNat), ("volume", .ofInt v)]
  | .pageOn => []
  | .pageOff => []

/-- The command as data. -/
def toJson (c : Command) : Json := .obj (("command", .string c.name) :: c.fields)

/-- A record of two fields, read into a pair. -/
def pairRecord {α β : Type} [Inhabited α] [Inhabited β] (title : String)
    (n₁ : String) (d₁ : Decoder α) (n₂ : String) (d₂ : Decoder β) : Record (α × β) where
  title := title
  blank := (default, default)
  fields := [{ name := n₁, put := fun v r => do pure (← d₁ v, r.2) },
             { name := n₂, put := fun v r => do pure (r.1, ← d₂ v) }]

/-- A record of three fields, read into a triple. -/
def tripleRecord {α β γ : Type} [Inhabited α] [Inhabited β] [Inhabited γ] (title : String)
    (n₁ : String) (d₁ : Decoder α) (n₂ : String) (d₂ : Decoder β) (n₃ : String) (d₃ : Decoder γ) :
    Record (α × β × γ) where
  title := title
  blank := (default, default, default)
  fields := [{ name := n₁, put := fun v r => do pure (← d₁ v, r.2) },
             { name := n₂, put := fun v r => do pure (r.1, ← d₂ v, r.2.2) },
             { name := n₃, put := fun v r => do pure (r.1, r.2.1, ← d₃ v) }]

/-- Reads the fields of the command of the given index from what follows its name. -/
def decodeVariant (i : Nat) (content : Json) : Except JsonError Command :=
  let title := "struct variant Command::" ++ titles.getD i ""
  let zoneAnd {β : Type} [Inhabited β] (n : String) (d : Decoder β) :=
    (pairRecord title "zone" Decoder.u8 n d).decodeIn true content
  match i with
  | 0 => (fun (z, b) => setPower z b) <$> zoneAnd "on" Decoder.bool
  | 1 => (fun (z, v) => setVolume z v) <$> zoneAnd "volume" Decoder.i32
  | 2 => (fun (z, b) => setMute z b) <$> zoneAnd "mute" Decoder.bool
  | 3 => (fun (z, s) => setSource z s) <$> zoneAnd "source" Decoder.u8
  | 4 => (fun (z, v) => setBass z v) <$> zoneAnd "bass" Decoder.i32
  | 5 => (fun (z, v) => setTreble z v) <$> zoneAnd "treble" Decoder.i32
  | 6 => (fun (z, p, b) => setBalance z p b) <$>
      (tripleRecord title "zone" Decoder.u8 "position" (BalancePosition.decode true)
        "balance" Decoder.i32).decodeIn true content
  | 7 => (fun (z, b) => setLoudnessComp z b) <$> zoneAnd "enabled" Decoder.bool
  | 8 => (fun (s, g) => setSourceGain s g) <$>
      (pairRecord title "source" Decoder.u8 "gain" Decoder.i32).decodeIn true content
  | 9 => (fun (z, v) => zoneVolumeMax z v) <$> zoneAnd "volume" Decoder.i32
  | 10 => (fun (z, v) => zoneVolumeInitial z v) <$> zoneAnd "volume" Decoder.i32
  | 11 => (fun (z, v) => zoneVolumePage z v) <$> zoneAnd "volume" Decoder.i32
  | 12 => (fun (z, v) => zoneVolumeParty z v) <$> zoneAnd "volume" Decoder.i32
  | 13 => do Decoder.unitContent content; pure pageOn
  | _ => do Decoder.unitContent content; pure pageOff

/-- Reads a command: its name under `command`, its fields beside it. -/
def decode : Decoder Command := fun v => do
  let (i, content) ← Decoder.tagged "command" "Command" names v
  decodeVariant i content

end Command

namespace Request

/-- The request as data: an object with the one key `command` or `query`. -/
def toJson : Request → Json
  | .command c => .obj [("command", c.toJson)]
  | .query q => .obj [("query", q.toJson)]

/-- Reads a request: an object whose one key, `command` or `query`, holds the request. -/
def decode : Decoder Request := fun v => do
  let (i, payload) ← Decoder.external ["command", "query"] v
  match payload with
  | none => Decoder.refuse (.invalidType .unitVariant .newtypeVariant)
  | some p => if i == 0 then command <$> Command.decode p else query <$> Query.decode p

end Request

end ZoneBridge
