import ZoneBridge.Binding

/-!
# Loudness compensation switches

Each zone has a switch for loudness compensation. It reads its state from zone eq status
events, and turning it on or off sends the command to set loudness compensation.
-/

namespace ZoneBridge

/-- What a loudness switch keeps: the last confirmed state, none until one is known. -/
structure LoudnessReading where
  enabled : Option Bool := none

/-- Takes in an event: only a zone eq status carries loudness compensation. -/
def LoudnessReading.apply : DeviceEvent → Update LoudnessReading Unit
  | .zoneEqStatus q => modify fun r => { r with enabled := some q.loudcmp }
  | e => throw (.malformed (.unreadable "loudcmp" e.messageType))

instance : Tracker LoudnessReading := ⟨LoudnessReading.apply⟩

end ZoneBridge
