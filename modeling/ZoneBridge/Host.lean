import ZoneBridge.Scale

/-!
# Host numbers

The host side of a control is a real number, carried as a binary64 float when the bridge runs.
The conversions of `ZoneBridge.Convert` are written against the class `HostNumber`, which names
the few operations they use, so that the same definitions can be read over exact rationals as
well as over floats. The float instance rounds to the nearest integer with ties to the even one,
keeps the sign of a zero, and turns a value into a 32-bit integer by cutting the fraction off,
saturating at the ends of the range and sending NaN to zero.
-/

namespace ZoneBridge

/-- The operations the conversions need from a host number type. -/
class HostNumber (α : Type) extends Add α, Sub α, Mul α, Div α, Neg α where
  /-- The value of an integer. -/
  ofInt : Int → α
  /-- What the value is when it is not a finite number. -/
  nonFinite? : α → Option NonFinite
  /-- The nearest integer, a tie going to the even one. -/
  roundEven : α → α
  /-- The absolute value. -/
  abs : α → α
  /-- The least integer not below the value. -/
  ceil : α → α
  /-- Strict comparison. -/
  lt : α → α → Bool
  /-- The integer part, saturated to `[-2 ^ 31, 2 ^ 31 - 1]`; zero for NaN. -/
  toInt32 : α → Int

namespace HostNumber

variable {α : Type} [HostNumber α]

/-- The smaller of two values, the first on a tie. -/
def min (a b : α) : α := if lt b a then b else a

/-- The larger of two values, the first on a tie. -/
def max (a b : α) : α := if lt a b then b else a

/-- Brings a value into `[lo, hi]`; NaN stays NaN. -/
def clamp (x lo hi : α) : α :=
  let y := if lt x lo then lo else x
  if lt hi y then hi else y

end HostNumber

namespace Float

/-- The nearest integer to a float, a tie going to the even one. Zeros, infinities, NaN and
values from `2 ^ 52` up are their own nearest integer; a negative value that rounds to zero
gives `-0.0`. Below `2 ^ 52` the integer part of the magnitude and its successor are exact
floats, and the fraction left over is exact as well. -/
def roundEven (x : Float) : Float :=
  if !x.isFinite || x == 0 then x
  else
    let a := x.abs
    if a ≥ 4503599627370496.0 then x
    else
      let n := a.toUInt64
      let d := a - n.toFloat
      let k := if d < 0.5 then n else if d > 0.5 then n + 1
        else if n % 2 == 0 then n else n + 1
      if x < 0 then -k.toFloat else k.toFloat

/-- The integer part of a float, saturated to the 32-bit range; NaN gives zero. -/
def toInt32 (x : Float) : Int :=
  if x.isNaN then 0
  else if x ≥ 2147483647.0 then 2147483647
  else if x ≤ -2147483648.0 then -2147483648
  else
    let n : Int := (x.abs.toUInt64.toNat : Int)
    if x < 0 then -n else n

/-- What a float is when it is not finite. -/
def nonFinite? (x : Float) : Option NonFinite :=
  if x.isNaN then some .nan
  else if x.isInf then some (if x > 0 then .infinity else .negativeInfinity)
  else none

/-- The float of an integer: the nearest one, a tie going to the even mantissa. -/
def ofInt (n : Int) : Float := ⟨Float.Model.ofInt n⟩

/-- The least integer not below a float. Zeros, infinities, NaN and values from `2 ^ 52` up are
their own ceiling; a negative value above `-1` gives `-0.0`. Below `2 ^ 52` the integer part of
the magnitude is exact, and a positive value that is not whole goes one up from it. -/
def ceil (x : Float) : Float :=
  if !x.isFinite || x == 0 then x
  else
    let a := x.abs
    if a ≥ 4503599627370496.0 then x
    else
      let n := a.toUInt64
      if x < 0 then -n.toFloat
      else if n.toFloat < a then (n + 1).toFloat else n.toFloat

end Float

instance : HostNumber Float where
  ofInt := Float.ofInt
  nonFinite? := Float.nonFinite?
  roundEven := Float.roundEven
  abs := Float.abs
  ceil := Float.ceil
  lt a b := a < b
  toInt32 := Float.toInt32

end ZoneBridge
