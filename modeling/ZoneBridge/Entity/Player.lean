import ZoneBridge.Binding
import ZoneBridge.Convert
import ZoneBridge.Config

/-!
# Zone players

A zone of the amplifier appears in the host as a media player. It keeps power, volume, mute,
source and tone of its zone from three types of event:

* a zone status with power off only marks the zone off. With power on it sets mute, the source
  by name (or none, for a source that is not configured), and the volume level `1 - native/floor`
  when a volume is given and the zone is not muted; otherwise the last level is kept;
* a zone configuration sets the list of sources the zone may select: its permitted sources that
  are configured, in the event's order;
* a zone eq status sets bass and treble as levels in `[0, 1]` of the model's scales, with their
  native values, the signed balance and loudness compensation.

Calls of the host become commands to the amplifier. Volume up and down move the native volume
by the configured step, saturating, and stop at the end of the scale on their side; they do
nothing while the volume is not known.
-/

namespace ZoneBridge

/-- What a zone player knows of its zone. -/
structure PlayerState where
  power : Option Bool := none
  /-- The host volume level in `[0, 1]`, from the last reading that was not muted. -/
  volume : Option Float := none
  mute : Option Bool := none
  /-- The name of the selected source. -/
  source : Option String := none
  /-- The sources the zone may select, by name. -/
  sourceList : List String := []
  bass : Option Float := none
  bassNative : Option Int := none
  treble : Option Float := none
  trebleNative : Option Int := none
  /-- The signed balance, negative to the left. -/
  balance : Option Float := none
  loudness : Option Bool := none

/-- A zone player: its zone, what it needs to read events, and its state. -/
structure Player where
  zone : UInt8
  model : ModelSpec
  sources : SourceMap
  /-- Native steps moved by volume up and down. -/
  volumeStep : Int
  state : PlayerState
  /-- The zone status saved by the last snapshot. -/
  saved : Option ZoneStatus := none

/-- The feature bits of a media player that a zone player offers: volume set, mute and step,
turning on and off, and selecting a source. -/
def Player.supportedFeatures : Nat := 4 + 8 + 128 + 256 + 1024 + 2048

example : Player.supportedFeatures = 3468 := rfl

/-- A 32-bit signed value, saturated at the ends of the range. -/
def saturate32 (n : Int) : Int := Max.max (-2147483648) (Min.min n 2147483647)

/-- What the host may ask of a zone player. -/
inductive PlayerCall where
  | turnOn
  | turnOff
  | setVolumeLevel (level : Float)
  | volumeUp
  | volumeDown
  | muteVolume (mute : Bool)
  | selectSource (name : String)
  /-- Sets bass: a native value snapped to the step grid, or a level in `[0, 1]`. -/
  | setBass (value : Float) (native : Bool)
  | setTreble (level : Float)
  | setBalance (value : Float)
  | setLoudness (enabled : Bool)
  | toggleLoudness
  | eqRequest
  | pageOn
  | pageOff

/-- Every field the player keeps, as data. -/
def PlayerState.toJson (st : PlayerState) : Json :=
  .obj [("power", .ofOption .bool st.power), ("volume", .ofOption .ofFloat st.volume),
    ("mute", .ofOption .bool st.mute), ("source", .ofOption .string st.source),
    ("source_list", .array (st.sourceList.map .string)), ("bass", .ofOption .ofFloat st.bass),
    ("bass_native", .ofOption .ofInt st.bassNative), ("treble", .ofOption .ofFloat st.treble),
    ("treble_native", .ofOption .ofInt st.trebleNative), ("balance", .ofOption .ofFloat st.balance),
    ("loudness_compensation", .ofOption .bool st.loudness)]

namespace Player

/-- A new zone player: no readings yet, and every configured source selectable. -/
def create (zone : UInt8) (model : ModelSpec) (sources : SourceMap) (volumeStep : Int) : Player :=
  { zone, model, sources, volumeStep, state := { sourceList := sources.names } }

/-- Changes what the player knows of its zone. -/
def modifyState (f : PlayerState → PlayerState) : Update Player Unit :=
  modify fun p => { p with state := f p.state }

/-- Takes in a zone status. -/
def applyStatus (s : ZoneStatus) : Update Player Unit := do
  if !s.power then
    modifyState fun st => { st with power := some false }
    return
  let p ← get
  let volume ← match s.volume with
    | some n =>
      if s.mute then pure none
      else some <$> Update.ofOutcome (Outcome.ofRange (Convert.toHostVolume n p.model.volume))
    | none => pure none
  modifyState fun st => { st with power := some true, mute := some s.mute }
  if volume.isSome then modifyState fun st => { st with volume }
  modifyState fun st => { st with source := s.source.bind p.sources.name }

/-- Takes in an event about the zone: the tone levels are converted before anything changes,
and the balance after the tone is written. -/
def apply : DeviceEvent → Update Player Unit
  | .zoneStatus s => applyStatus s
  | .zoneConfiguration c =>
    modify fun p => { p with state := { p.state with
      sourceList := (sourceIds c.sources).filterMap p.sources.name } }
  | .zoneEqStatus q => do
    let p ← get
    let bass ← Update.ofOutcome (Convert.toHostEq q.bass p.model.bass)
    let treble ← Update.ofOutcome (Convert.toHostEq q.treble p.model.treble)
    modifyState fun st => { st with
      bass := some bass, bassNative := some q.bass
      treble := some treble, trebleNative := some q.treble }
    let balance ← Update.ofOutcome (Convert.toHostBalance q.balancePosition q.balance)
    modifyState fun st => { st with balance := some balance, loudness := some q.loudcmp }
  | e => throw (.malformed (.unusable "zone" e.messageType))

instance : Tracker Player := ⟨Player.apply⟩

/-- The volume command of a step up or down from the current level, if the level is known:
the current native volume moved by the volume step and kept at the scale's end on that side. -/
def stepVolume (p : Player) (up : Bool) : Outcome (Option Command) :=
  match p.state.volume with
  | none => pure none
  | some level => do
    let s := p.model.volume
    let current ← Outcome.ofRange (Convert.toDeviceVolume level s)
    let target :=
      if up then Max.max (saturate32 (current - p.volumeStep)) s.lower
      else Min.min (saturate32 (current + p.volumeStep)) s.upper
    pure (some (.setVolume p.zone target))

/-- The request a call sends, computed before the link is used: `none` when there is nothing
to send. -/
def requestFor (p : Player) : PlayerCall → Outcome (Option Request)
  | .turnOn => pure (some (.command (.setPower p.zone true)))
  | .turnOff => pure (some (.command (.setPower p.zone false)))
  | .setVolumeLevel level => do
    let n ← Outcome.ofRange (Convert.toDeviceVolume level p.model.volume)
    pure (some (.command (.setVolume p.zone n)))
  | .volumeUp => (·.map .command) <$> p.stepVolume true
  | .volumeDown => (·.map .command) <$> p.stepVolume false
  | .muteVolume m => pure (some (.command (.setMute p.zone m)))
  | .selectSource name =>
    match p.sources.id name with
    | some id => pure (some (.command (.setSource p.zone id)))
    | none => .error (.unknownSource name)
  | .setBass v native => do
    let n ← if native then Convert.toDeviceSigned v p.model.bass else Convert.toDeviceEq v p.model.bass
    pure (some (.command (.setBass p.zone n)))
  | .setTreble v => do
    let n ← Convert.toDeviceEq v p.model.treble
    pure (some (.command (.setTreble p.zone n)))
  | .setBalance v => do
    let (pos, m) ← Outcome.ofRange (Convert.toDeviceBalance v p.model.balance)
    pure (some (.command (.setBalance p.zone pos m)))
  | .setLoudness e => pure (some (.command (.setLoudnessComp p.zone e)))
  | .toggleLoudness =>
    pure (some (.command (.setLoudnessComp p.zone !(p.state.loudness.getD false))))
  | .eqRequest => pure (some (.query ⟨.zoneEqStatus, p.zone⟩))
  | .pageOn => pure (some (.command .pageOn))
  | .pageOff => pure (some (.command .pageOff))

/-- The requests that bring the zone back to a saved status: power; when it was on, also the
source and volume if known, and mute; then a query of the zone status. -/
def restoreRequests (p : Player) (s : ZoneStatus) : List Request :=
  let setting :=
    if s.power then
      (s.source.map (fun id => [Command.setSource p.zone id])).getD [] ++
      (s.volume.map (fun v => [Command.setVolume p.zone v])).getD [] ++
      [.setMute p.zone s.mute]
    else []
  (.setPower p.zone s.power :: setting).map .command ++ [.query ⟨.zoneStatus, p.zone⟩]

/-- The queries a zone player sends on attaching. -/
def attachQueries (p : Player) : List Query :=
  [⟨.zoneStatus, p.zone⟩, ⟨.zoneConfiguration, p.zone⟩, ⟨.zoneEqStatus, p.zone⟩]

/-- The word of a power state. -/
def powerWord : Option Bool → String
  | some true => "on"
  | some false => "off"
  | none => "unknown"

/-- The state the host stores for the player. -/
def stateJson (p : Player) : Json :=
  let st := p.state
  .obj [("state", .string (powerWord st.power)), ("volume_level", .ofOption .ofFloat st.volume),
    ("is_volume_muted", .ofOption .bool st.mute), ("source", .ofOption .string st.source),
    ("media_title", .ofOption .string st.source),
    ("source_list", .array (st.sourceList.map .string)),
    ("supported_features", .ofNat supportedFeatures),
    ("loudness_compensation", .ofOption .bool st.loudness),
    ("bass_level", .ofOption .ofFloat st.bass), ("bass_level_native", .ofOption .ofInt st.bassNative),
    ("treble_level", .ofOption .ofFloat st.treble)]

end Player

end ZoneBridge
