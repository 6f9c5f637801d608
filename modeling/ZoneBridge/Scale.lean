import ZoneBridge.Decimal.Layout

/-!
# Native control scales

Each control of an amplifier (volume, bass, treble, balance, gain) takes integer values from
`min` to `max` in steps of `step`; either end may be the larger, so `lower` and `upper` name
the ends by size. A scale is usable when its step is positive and its ends differ, checked in
that order. A `RangeFault` is why a scale or a host value cannot be converted.
-/

namespace ZoneBridge

/-- The decimal text of an integer. -/
def intText (n : Int) : String :=
  (if n < 0 then "-" else "") ++ Decimal.digitText n.natAbs

/-- A host value that is not a finite number. -/
inductive NonFinite where
  | nan
  | infinity
  | negativeInfinity
deriving DecidableEq, Repr

/-- The word for a value that is not finite. -/
def NonFinite.text : NonFinite → String
  | .nan => "NaN"
  | .infinity => "inf"
  | .negativeInfinity => "-inf"

/-- Why a scale or a host value cannot be converted. -/
inductive RangeFault where
  /-- The step is zero or negative. -/
  | stepNotPositive (step : Int)
  /-- Both ends are the same value. -/
  | zeroWidth (value : Int)
  /-- A volume scale whose quiet end is zero cannot express attenuation. -/
  | noFloor
  /-- The host value is NaN or infinite. -/
  | notFinite (value : NonFinite)
deriving DecidableEq, Repr

/-- The wording of a range fault. -/
def RangeFault.message : RangeFault → String
  | .stepNotPositive s => "step must be positive, got " ++ intText s
  | .zeroWidth m => "zero-width scale at " ++ intText m
  | .noFloor => "volume scale has no attenuation floor"
  | .notFinite v => "host value " ++ v.text ++ " is not finite"

/-- The native range of one control: integers from `min` to `max` in steps of `step`. -/
structure Scale where
  min : Int
  max : Int
  step : Int
deriving DecidableEq, Repr

namespace Scale

/-- The smaller end. -/
def lower (s : Scale) : Int := Min.min s.min s.max

/-- The larger end. -/
def upper (s : Scale) : Int := Max.max s.min s.max

/-- Brings a native value into `[lower, upper]`. -/
def clamp (s : Scale) (n : Int) : Int := Max.max s.lower (Min.min n s.upper)

/-- A usable scale has a positive step and two different ends; the step is checked first. -/
def validate (s : Scale) : Except RangeFault Unit :=
  if s.step ≤ 0 then .error (.stepNotPositive s.step)
  else if s.min == s.max then .error (.zeroWidth s.min)
  else .ok ()

@[simp] theorem lower_le_upper (s : Scale) : s.lower ≤ s.upper := by
  simp only [lower, upper]; omega

theorem clamp_mem (s : Scale) (n : Int) : s.lower ≤ s.clamp n ∧ s.clamp n ≤ s.upper := by
  simp only [clamp, lower, upper]; omega

end Scale

end ZoneBridge
