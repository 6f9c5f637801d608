import Mathlib
import ZoneBridge.Proofs.FloatSign
import ZoneBridge.Proofs.Readers

/-!
# Every command an entity computes is one the amplifier accepts

A command names the zone or source it is for, and the levels it carries must lie on the scales
of the amplifier's model (`Command.Fits`): volume and the volume presets within the volume
scale, bass and treble within their scales and on their step grids, gain within the gain scale,
and balance as a magnitude up to the top of the balance scale with the centre position exactly
for magnitude zero. A source selection must name a configured source.

Each conversion towards the amplifier ends in a clamp to its scale, and the clamp keeps a value
on the step grid when both ends of the scale lie on it (`Scale.onGrid_clamp`); the balance
magnitude is a rounded absolute value, which is never negative. So every command a zone player
computes for a call of the host (`Player.requestFor_fits`) and every command a dial computes for
a host value (`Dial.command_fits`) fits, for the zone or source of the entity, on every known
model.
-/

namespace ZoneBridge

namespace Scale

/-- A native value within the ends of a scale. -/
def Holds (s : Scale) (v : Int) : Prop := s.lower ≤ v ∧ v ≤ s.upper

/-- A native value within the ends of a scale and on its step grid, counted from the lower end. -/
def OnGrid (s : Scale) (v : Int) : Prop := s.Holds v ∧ s.step ∣ v - s.lower

/-- Both ends of a scale are multiples of its step. -/
def Aligned (s : Scale) : Prop := s.step ∣ s.lower ∧ s.step ∣ s.upper

instance (s : Scale) : Decidable s.Aligned := inferInstanceAs (Decidable (_ ∧ _))

theorem holds_clamp (s : Scale) (n : Int) : s.Holds (s.clamp n) := s.clamp_mem n

/-- Clamping keeps a value on the grid when the upper end is on it: a clamped value is one of
the two ends or the value itself. -/
theorem onGrid_clamp {s : Scale} (hw : s.step ∣ s.upper - s.lower) {v : Int}
    (hv : s.step ∣ v - s.lower) : s.OnGrid (s.clamp v) := by
  refine ⟨s.holds_clamp v, ?_⟩
  have hcases : s.clamp v = s.lower ∨ s.clamp v = s.upper ∨ s.clamp v = v := by
    simp only [clamp]
    omega
  rcases hcases with h | h | h <;> rw [h]
  · simp
  · exact hw
  · exact hv

theorem Aligned.width {s : Scale} (h : s.Aligned) : s.step ∣ s.upper - s.lower :=
  dvd_sub h.2 h.1

theorem Aligned.multiple {s : Scale} (h : s.Aligned) (k : Int) : s.step ∣ k * s.step - s.lower :=
  dvd_sub (dvd_mul_left _ _) h.1

/-- A step from a value within the scale, saturated to 32 bits and stopped at the end of the
scale on its side, stays within the scale. -/
theorem holds_step {s : Scale} (hlo : -2147483648 ≤ s.lower) (hhi : s.upper ≤ 2147483647)
    {cur step : Int} (hc : s.Holds cur) (hst : 0 ≤ step) (up : Bool) :
    s.Holds (if up then Max.max (saturate32 (cur - step)) s.lower
      else Min.min (saturate32 (cur + step)) s.upper) := by
  obtain ⟨hcl, hcu⟩ := hc
  cases up <;> simp only [Holds, saturate32, Bool.false_eq_true, if_false, if_true] <;> omega

end Scale

namespace Convert

variable {α : Type} [HostNumber α] {h : α} {s : Scale} {n : Int}

theorem toDeviceVolume_holds (hr : toDeviceVolume h s = .ok n) : s.Holds n := by
  obtain ⟨floor, -, hr⟩ := bind_eq_ok hr
  obtain ⟨h', -, hr⟩ := bind_eq_ok hr
  cases hr
  exact s.holds_clamp _

theorem toDeviceAttenuation_holds (hr : toDeviceAttenuation h s = .ok n) : s.Holds n := by
  obtain ⟨-, -, hr⟩ := bind_eq_ok hr
  obtain ⟨h', -, hr⟩ := bind_eq_ok hr
  cases hr
  exact s.holds_clamp _

/-- A tone value is a whole number of steps, clamped to the scale. -/
theorem toDeviceEq_eq_ok (hr : toDeviceEq h s = .ok n) : ∃ k : Int, n = s.clamp (k * s.step) := by
  obtain ⟨-, -, hr⟩ := bind_eq_ok hr
  obtain ⟨h', -, hr⟩ := bind_eq_ok hr
  obtain ⟨m, hm, hr⟩ := bind_eq_ok hr
  cases hr
  -- the product of the steps and the step did not overflow
  obtain ⟨-, rfl⟩ := Native.checked_eq_ok_iff.1 hm
  exact ⟨_, rfl⟩

/-- A signed value is a whole number of steps from the lower end, clamped to the scale. -/
theorem toDeviceSigned_eq_ok (hr : toDeviceSigned h s = .ok n) :
    ∃ k : Int, n = s.clamp (s.lower + k * s.step) := by
  obtain ⟨-, -, hr⟩ := bind_eq_ok hr
  obtain ⟨width, -, hr⟩ := bind_eq_ok hr
  obtain ⟨h', -, hr⟩ := bind_eq_ok hr
  obtain ⟨offset, hoff, hr⟩ := bind_eq_ok hr
  obtain ⟨m, hm, hr⟩ := bind_eq_ok hr
  cases hr
  -- neither the offset in steps nor its sum with the lower end overflowed
  obtain ⟨-, rfl⟩ := Native.checked_eq_ok_iff.1 hoff
  obtain ⟨-, rfl⟩ := Native.checked_eq_ok_iff.1 hm
  exact ⟨_, rfl⟩

theorem toDeviceSigned_holds (hr : toDeviceSigned h s = .ok n) : s.Holds n := by
  obtain ⟨k, rfl⟩ := toDeviceSigned_eq_ok hr
  exact s.holds_clamp _

theorem toDeviceEq_onGrid (ha : s.Aligned) (hr : toDeviceEq h s = .ok n) : s.OnGrid n := by
  obtain ⟨k, rfl⟩ := toDeviceEq_eq_ok hr
  exact Scale.onGrid_clamp ha.width (ha.multiple k)

theorem toDeviceSigned_onGrid (hw : s.step ∣ s.upper - s.lower)
    (hr : toDeviceSigned h s = .ok n) : s.OnGrid n := by
  obtain ⟨k, rfl⟩ := toDeviceSigned_eq_ok hr
  exact Scale.onGrid_clamp hw (by simp)

/-- The balance of a host value: its magnitude lies between zero and the top of the scale, and
the position is the centre exactly for magnitude zero. -/
theorem toDeviceBalance_eq_ok {v : Float} {p : BalancePosition} (hs : 0 ≤ s.upper)
    (hr : toDeviceBalance v s = .ok (p, n)) :
    0 ≤ n ∧ n ≤ s.upper ∧ (p = .center ↔ n = 0) := by
  obtain ⟨-, -, hr⟩ := bind_eq_ok hr
  obtain ⟨h', -, hr⟩ := bind_eq_ok hr
  cases hr
  -- the rounded magnitude, cut to 32 bits, is not negative
  have hmag : 0 ≤ Float.toInt32 (Float.roundEven h'.abs) := Float.toInt32_roundEven_abs_nonneg h'
  refine ⟨le_min hmag hs, min_le_right _ _, ?_⟩
  split_ifs with hz
  · simpa using hz
  · simpa using hz
  · simpa using hz

end Convert

/-- A target whose id the configuration lists: a zone among the zones, a source among the
sources. -/
def Target.Configured (zones sources : IdMap) (t : Target) : Prop :=
  match t.kind with
  | .zone => t.id ∈ zones.map (·.1)
  | .source => t.id ∈ sources.map (·.1)

/-- A command sent for the entity of target `t` on model `m` with the configured `sources`: it
names `t`, a source it selects is configured, and each level lies on its control's scale. -/
def Command.Fits (m : ModelSpec) (sources : IdMap) (t : Target) : Command → Prop
  | .setPower z _ => t = .zone z
  | .setVolume z v => t = .zone z ∧ m.volume.Holds v
  | .setMute z _ => t = .zone z
  | .setSource z s => t = .zone z ∧ s ∈ sources.map (·.1)
  | .setBass z v => t = .zone z ∧ m.bass.OnGrid v
  | .setTreble z v => t = .zone z ∧ m.treble.OnGrid v
  | .setBalance z p v => t = .zone z ∧ 0 ≤ v ∧ v ≤ m.balance.upper ∧ (p = .center ↔ v = 0)
  | .setLoudnessComp z _ => t = .zone z
  | .setSourceGain s v => t = .source s ∧ m.gain.Holds v
  | .zoneVolumeMax z v => t = .zone z ∧ m.volume.Holds v
  | .zoneVolumeInitial z v => t = .zone z ∧ m.volume.Holds v
  | .zoneVolumePage z v => t = .zone z ∧ m.volume.Holds v
  | .zoneVolumeParty z v => t = .zone z ∧ m.volume.Holds v
  | .pageOn => True
  | .pageOff => True

namespace ModelSpec

/-- What the commands need of a model's scales: tone ends on the step grid, a balance scale
that reaches zero, and volume ends within 32 bits. -/
structure Commandable (m : ModelSpec) : Prop where
  bass : m.bass.Aligned
  treble : m.treble.Aligned
  balance : 0 ≤ m.balance.upper
  volumeLower : -2147483648 ≤ m.volume.lower
  volumeUpper : m.volume.upper ≤ 2147483647

theorem commandable_of_mem {m : ModelSpec} (h : m ∈ all) : m.Commandable := by
  simp only [all, List.mem_cons, List.not_mem_nil, or_false] at h
  rcases h with rfl | rfl <;> exact ⟨by decide, by decide, by decide, by decide, by decide⟩

end ModelSpec

theorem Outcome.ofRange_eq_ok {α : Type} {r : Except RangeFault α} {a : α} :
    Outcome.ofRange r = .ok a ↔ r = .ok a :=
  mapError_eq_ok

namespace Player

variable {p : Player}

/-- A volume step computes the volume of the zone, within the volume scale. -/
theorem stepVolume_fits (hm : p.model.Commandable) (hvs : 0 ≤ p.volumeStep) {up : Bool}
    {c : Command} (h : p.stepVolume up = .ok (some c)) :
    c.Fits p.model p.sources.byId (.zone p.zone) := by
  unfold stepVolume at h
  split at h
  · cases h
  · obtain ⟨cur, hcur, h⟩ := bind_eq_ok h
    cases h
    have hc := Convert.toDeviceVolume_holds (Outcome.ofRange_eq_ok.1 hcur)
    exact ⟨rfl, Scale.holds_step hm.volumeLower hm.volumeUpper hc hvs up⟩

/-- Every command a zone player computes for a call of the host fits its zone. -/
theorem requestFor_fits (hm : p.model.Commandable) (hvs : 0 ≤ p.volumeStep) {call : PlayerCall}
    {c : Command} (h : p.requestFor call = .ok (some (.command c))) :
    c.Fits p.model p.sources.byId (.zone p.zone) := by
  cases call with
  | turnOn | turnOff | muteVolume _ | setLoudness _ | toggleLoudness =>
    cases h
    rfl
  | pageOn | pageOff =>
    cases h
    trivial
  | eqRequest => cases h
  | setVolumeLevel level =>
    obtain ⟨n, hn, h⟩ := bind_eq_ok h
    cases h
    exact ⟨rfl, Convert.toDeviceVolume_holds (Outcome.ofRange_eq_ok.1 hn)⟩
  | volumeUp | volumeDown =>
    obtain ⟨r, hr, h⟩ := map_eq_ok h
    cases r with
    | none => cases h
    | some c' =>
      cases h
      exact stepVolume_fits hm hvs hr
  | selectSource name =>
    -- the id of a name is one of the configured sources
    simp only [requestFor] at h
    split at h
    · rename_i id hid
      cases h
      obtain ⟨x, hx, rfl⟩ := Option.map_eq_some_iff.1 hid
      have hmem := List.mem_of_getLast? hx
      exact ⟨rfl, List.mem_map.2 ⟨x, List.mem_of_mem_filter hmem, rfl⟩⟩
    · cases h
  | setBass v native =>
    -- a native value is snapped to the step grid from the lower end, a level to whole steps
    cases native with
    | true =>
      obtain ⟨n, hn, h⟩ := bind_eq_ok h
      cases h
      exact ⟨rfl, Convert.toDeviceSigned_onGrid hm.bass.width hn⟩
    | false =>
      obtain ⟨n, hn, h⟩ := bind_eq_ok h
      cases h
      exact ⟨rfl, Convert.toDeviceEq_onGrid hm.bass hn⟩
  | setTreble v =>
    obtain ⟨n, hn, h⟩ := bind_eq_ok h
    cases h
    exact ⟨rfl, Convert.toDeviceEq_onGrid hm.treble hn⟩
  | setBalance v =>
    obtain ⟨⟨pos, n⟩, hn, h⟩ := bind_eq_ok h
    cases h
    exact ⟨rfl, Convert.toDeviceBalance_eq_ok hm.balance (Outcome.ofRange_eq_ok.1 hn)⟩

end Player

namespace Dial

/-- Every command a dial computes for a host value fits the dial's zone or source, on the scale
of its control. -/
theorem command_fits {m : ModelSpec} (hm : m.Commandable) (d : Dial) (id : UInt8) (v : Float)
    (sources : IdMap) {c : Command} (h : d.command id v (m.scale d.controlKind) = .ok c) :
    c.Fits m sources ⟨d.entityKind, id⟩ := by
  cases d with
  | bass =>
    obtain ⟨n, hn, h⟩ := bind_eq_ok h
    cases h
    exact ⟨rfl, Convert.toDeviceSigned_onGrid hm.bass.width hn⟩
  | treble =>
    obtain ⟨n, hn, h⟩ := bind_eq_ok h
    cases h
    exact ⟨rfl, Convert.toDeviceSigned_onGrid hm.treble.width hn⟩
  | balance =>
    obtain ⟨⟨pos, n⟩, hn, h⟩ := bind_eq_ok h
    cases h
    exact ⟨rfl, Convert.toDeviceBalance_eq_ok hm.balance (Outcome.ofRange_eq_ok.1 hn)⟩
  | gain =>
    obtain ⟨n, hn, h⟩ := bind_eq_ok h
    cases h
    exact ⟨rfl, Convert.toDeviceSigned_holds hn⟩
  | maxVolume | initialVolume | pageVolume | partyVolume =>
    obtain ⟨n, hn, h⟩ := bind_eq_ok h
    cases h
    exact ⟨rfl, Convert.toDeviceAttenuation_holds (Outcome.ofRange_eq_ok.1 hn)⟩

end Dial

end ZoneBridge
