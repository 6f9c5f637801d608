import ZoneBridge.Host
import ZoneBridge.Balance
import ZoneBridge.Native

/-!
# Converting between native and host values

Every conversion but the balance reading first checks the scale (`Scale.validate`); a conversion
from the host side then refuses a value that is not finite. Rounding goes to the nearest integer
with ties to the even one, and a host value becomes an integer by cutting off the fraction with
saturation at the 32-bit ends, after which the result is clamped to the scale.

* Volume: the scale runs from `min` (quietest, the attenuation floor) down to `0` (loudest); the
  host level is `1 - native / min`.
* Tone (`eq`): the native range maps linearly onto `[0, 1]`; the way back snaps to whole steps.
* Signed: the host value is the native value; the way back snaps to the step grid from `lower`.
* Balance: position and magnitude become one signed value; the way back splits the sign off and
  caps the magnitude at `upper`.
* Attenuation: the host value is the negated native value.

The tone and signed conversions, the balance reading and the attenuation reading compute with
native values in 32-bit arithmetic (`Native`), where a result out of range stops the program:
the tone reading subtracts the ends, the signed conversion takes the width and adds the steps
to the lower end, the balance reading takes the magnitude's absolute value and the attenuation
reading negates. These conversions give an `Outcome`, whose failures include that panic.
-/

namespace ZoneBridge

namespace Convert

variable {α : Type} [HostNumber α]

open HostNumber

/-- A host value, refused when it is not finite. -/
def finite (h : α) : Except RangeFault α :=
  match nonFinite? h with
  | some v => .error (.notFinite v)
  | none => .ok h

/-- The nearest integer, ties to even. -/
def roundHalfEven (x : α) : α := roundEven x

/-- The quiet end of a usable volume scale, which must not be zero. -/
def volumeFloor (s : Scale) : Except RangeFault α := do
  s.validate
  if s.min == 0 then throw .noFloor
  pure (ofInt s.min)

/-- The host volume level of a native volume: `1 - native / floor`. -/
def toHostVolume (n : Int) (s : Scale) : Except RangeFault α := do
  let floor ← volumeFloor (α := α) s
  pure (ofInt 1 - ofInt n / floor)

/-- The native volume of a host level: `floor - level · floor`, rounded and clamped. -/
def toDeviceVolume (h : α) (s : Scale) : Except RangeFault Int := do
  let floor ← volumeFloor (α := α) s
  let h ← finite h
  pure (s.clamp (toInt32 (roundEven (floor - h * floor))))

/-- The host level of a native tone value: its place in `[min, max]` as a fraction. -/
def toHostEq (n : Int) (s : Scale) : Outcome α := do
  Outcome.ofRange s.validate
  let offset ← Native.sub n s.min
  let width ← Native.sub s.max s.min
  pure (ofInt offset / ofInt width)

/-- The native tone value of a host level: the level scaled to whole steps between the ends,
rounded, kept between the ends, and multiplied back by the step. -/
def toDeviceEq (h : α) (s : Scale) : Outcome Int := do
  Outcome.ofRange s.validate
  let step : α := ofInt s.step
  let stepsMin := ofInt s.min / step
  let stepsMax := ofInt s.max / step
  let h ← Outcome.ofRange (finite h)
  let steps := clamp (roundEven (h * (stepsMax - stepsMin) + stepsMin))
    (HostNumber.min stepsMin stepsMax) (HostNumber.max stepsMin stepsMax)
  let n ← Native.mul (toInt32 steps) s.step
  pure (s.clamp n)

/-- The host value of a signed native value: the value itself. -/
def toHostSigned (n : Int) (s : Scale) : Except RangeFault α := do
  s.validate
  pure (ofInt n)

/-- The native value of a signed host value: the nearest point of the step grid from `lower`,
kept within the scale. -/
def toDeviceSigned (h : α) (s : Scale) : Outcome Int := do
  Outcome.ofRange s.validate
  let lower := s.lower
  let width ← Native.sub s.upper lower
  let maxSteps : α := ofInt width / ofInt s.step
  let h ← Outcome.ofRange (finite h)
  let steps := clamp (roundEven ((h - ofInt lower) / ofInt s.step)) (ofInt 0) (ceil maxSteps)
  let offset ← Native.mul (toInt32 steps) s.step
  let n ← Native.add lower offset
  pure (s.clamp n)

/-- The signed host value of a balance reading: `-|m|` to the left, `0` at the centre, `|m|` to
the right. -/
def toHostBalance (p : BalancePosition) (m : Int) : Outcome α :=
  match p with
  | .left => do
    let a ← Native.abs m
    pure (-ofInt a)
  | .center => pure (ofInt 0)
  | .right => do
    let a ← Native.abs m
    pure (ofInt a)

/-- The balance position and magnitude of a signed host value: the rounded magnitude, capped
at `upper`, and the side of the sign; the centre when the magnitude is zero. -/
def toDeviceBalance (h : α) (s : Scale) : Except RangeFault (BalancePosition × Int) := do
  s.validate
  let h ← finite h
  let magnitude := Min.min (toInt32 (roundEven (abs h))) s.upper
  let position :=
    if magnitude == 0 then BalancePosition.center
    else if lt h (ofInt 0) then .left
    else .right
  pure (position, magnitude)

/-- The host value of a native attenuation: its negation. -/
def toHostAttenuation (n : Int) (s : Scale) : Outcome α := do
  Outcome.ofRange s.validate
  let m ← Native.neg n
  pure (ofInt m)

/-- The native attenuation of a host value: its negation, rounded and clamped. -/
def toDeviceAttenuation (h : α) (s : Scale) : Except RangeFault Int := do
  s.validate
  let h ← finite h
  pure (s.clamp (toInt32 (roundEven (-h))))

end Convert

end ZoneBridge
