import ZoneBridge.Binding
import ZoneBridge.Convert
import ZoneBridge.Model

/-!
# Numeric controls

A `Dial` is one numeric control of a zone or a source: bass, treble and balance, the four
volume presets of a zone, and the gain of a source. Each dial reads its host value from one type
of event and writes it back with one command, through the conversion of its kind of scale:
signed for tone and gain, balance for balance, attenuation for the volume presets.

A dial entity shows the last value the amplifier confirmed; setting a value only sends the
command, and the shown value changes when the amplifier pushes the new reading.
-/

namespace ZoneBridge

/-- A numeric control of a zone or source. -/
inductive Dial where
  | bass
  | treble
  | balance
  | gain
  | maxVolume
  | initialVolume
  | pageVolume
  | partyVolume
deriving DecidableEq, Repr

namespace Dial

/-- The dials of every zone, in the order their entities are made. -/
def zoneDials : List Dial :=
  [bass, treble, balance, maxVolume, initialVolume, pageVolume, partyVolume]

/-- The dials of every source. -/
def sourceDials : List Dial := [gain]

/-- The control name of a dial, last part of its unique id. -/
def controlName : Dial → String
  | .bass => "bass"
  | .treble => "treble"
  | .balance => "balance"
  | .gain => "gain"
  | .maxVolume => "max_vol"
  | .initialVolume => "ini_vol"
  | .pageVolume => "page_vol"
  | .partyVolume => "party_vol"

/-- The dial of a control name. -/
def ofControlName (s : String) : Option Dial :=
  [bass, treble, balance, gain, maxVolume, initialVolume, pageVolume, partyVolume].find?
    (·.controlName == s)

/-- The label of a dial, shown after the zone's or source's name. -/
def label : Dial → String
  | .bass => "Bass"
  | .treble => "Treble"
  | .balance => "Balance"
  | .gain => "Gain"
  | .maxVolume => "Volume Max"
  | .initialVolume => "Volume Initial"
  | .pageVolume => "Volume Page"
  | .partyVolume => "Volume Party"

/-- Whether the dial belongs to a zone or a source. -/
def entityKind : Dial → EntityKind
  | .gain => .source
  | _ => .zone

/-- The control whose scale the dial uses. -/
def controlKind : Dial → ControlKind
  | .bass => .bass
  | .treble => .treble
  | .balance => .balance
  | .gain => .gain
  | _ => .volume

/-- Whether the dial is a volume preset. -/
def isVolume (d : Dial) : Bool := d.controlKind == .volume

/-- The type of the events the dial reads. -/
def messageType : Dial → MessageType
  | .bass | .treble | .balance => .zoneEqStatus
  | .gain => .sourceConfiguration
  | _ => .zoneVolumeConfiguration

/-- The query answered by the event the dial reads. -/
def query (d : Dial) (id : UInt8) : Query := ⟨d.messageType, id⟩

variable {α : Type} [HostNumber α]

/-- The host value of the dial in an event. -/
def read (d : Dial) (e : DeviceEvent) (s : Scale) : Outcome α :=
  match d, e with
  | .bass, .zoneEqStatus q => .ofRange (Convert.toHostSigned q.bass s)
  | .treble, .zoneEqStatus q => .ofRange (Convert.toHostSigned q.treble s)
  | .balance, .zoneEqStatus q => do
    Outcome.ofRange s.validate
    Convert.toHostBalance q.balancePosition q.balance
  | .gain, .sourceConfiguration c => .ofRange (Convert.toHostSigned c.gain s)
  | .maxVolume, .zoneVolumeConfiguration v => Convert.toHostAttenuation v.maxVol s
  | .initialVolume, .zoneVolumeConfiguration v => Convert.toHostAttenuation v.iniVol s
  | .pageVolume, .zoneVolumeConfiguration v => Convert.toHostAttenuation v.pageVol s
  | .partyVolume, .zoneVolumeConfiguration v => Convert.toHostAttenuation v.partyVol s
  | d, e => .error (.malformed (.unreadable d.controlName e.messageType))

/-- The command that sets the dial of a zone or source to a host value. -/
def command (d : Dial) (id : UInt8) (h : α) (s : Scale) : Outcome Command :=
  match d with
  | .bass => do pure (.setBass id (← Convert.toDeviceSigned h s))
  | .treble => do pure (.setTreble id (← Convert.toDeviceSigned h s))
  | .balance => do
    let (p, m) ← Outcome.ofRange (Convert.toDeviceBalance h s)
    pure (.setBalance id p m)
  | .gain => do pure (.setSourceGain id (← Convert.toDeviceSigned h s))
  | .maxVolume => do pure (.zoneVolumeMax id (← Outcome.ofRange (Convert.toDeviceAttenuation h s)))
  | .initialVolume => do
    pure (.zoneVolumeInitial id (← Outcome.ofRange (Convert.toDeviceAttenuation h s)))
  | .pageVolume => do pure (.zoneVolumePage id (← Outcome.ofRange (Convert.toDeviceAttenuation h s)))
  | .partyVolume => do
    pure (.zoneVolumeParty id (← Outcome.ofRange (Convert.toDeviceAttenuation h s)))

/-- The host range of the dial on a scale, as native ends: balance runs from `-upper` to
`upper`, a volume preset from `-upper` to `-lower`, the others from `lower` to `upper`. The
ends are negated in native arithmetic. -/
def nativeRange (d : Dial) (s : Scale) : Outcome (Int × Int) :=
  if d == .balance then do pure (← Native.neg s.upper, s.upper)
  else if d.isVolume then do pure (← Native.neg s.upper, ← Native.neg s.lower)
  else pure (s.lower, s.upper)

/-- The host range of the dial on a scale. -/
def hostRange (d : Dial) (s : Scale) : Outcome (α × α) := do
  let (lo, hi) ← d.nativeRange s
  pure (HostNumber.ofInt lo, HostNumber.ofInt hi)

end Dial

/-- What a dial entity keeps: the dial, its scale and the last confirmed value. -/
structure DialReading where
  dial : Dial
  scale : Scale
  value : Option Float := none

/-- Takes in an event: the dial's value is read first, then kept. -/
instance : Tracker DialReading where
  apply e := do
    let r ← get
    let v ← Update.ofOutcome (r.dial.read e r.scale)
    modify fun r => { r with value := some v }

end ZoneBridge
