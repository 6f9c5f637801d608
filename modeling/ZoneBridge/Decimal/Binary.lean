/-!
# Binary64 values as exact numbers

A binary64 value is NaN, an infinity, or `±m · 2 ^ e` with `m < 2 ^ 53`. This module takes a
float apart into those parts from its bit pattern, and builds the bit pattern of the float
nearest to a non-negative ratio of natural numbers, a tie going to the even mantissa. Both
directions work on natural numbers only, so they are exact; the decimal reader and the
shortest-digit printer stand on them.
-/

namespace ZoneBridge.Decimal

/-- The parts of a binary64 value. -/
inductive Binary64 where
  /-- Not a number. -/
  | nan
  /-- An infinity of the given sign. -/
  | infinity (negative : Bool)
  /-- The value `±mantissa · 2 ^ exponent`; zero when the mantissa is. -/
  | finite (negative : Bool) (mantissa : Nat) (exponent : Int)
deriving DecidableEq, Repr

/-- The smallest exponent of the format: subnormal values are multiples of `2 ^ -1074`. -/
def minExponent : Int := -1074

/-- Reads the sign, the biased exponent and the fraction off a bit pattern. -/
def Binary64.ofBits (bits : UInt64) : Binary64 :=
  let negative := bits >>> 63 == 1
  let biased := ((bits >>> 52) &&& 0x7FF).toNat
  let fraction := (bits &&& 0xFFFFFFFFFFFFF).toNat
  if biased == 0x7FF then
    if fraction == 0 then .infinity negative else .nan
  else if biased == 0 then .finite negative fraction minExponent
  else .finite negative (fraction + Nat.pow 2 52) ((biased : Int) - 1075)

/-- The parts of a float. -/
def Binary64.ofFloat (x : Float) : Binary64 := ofBits x.toBits

/-- Compares `a · 10 ^ p` with `b · 2 ^ q` exactly. -/
def compareScaled (a : Nat) (p : Int) (b : Nat) (q : Int) : Ordering :=
  compare (a * Nat.pow 10 p.toNat * Nat.pow 2 (-q).toNat) (b * Nat.pow 2 q.toNat * Nat.pow 10 (-p).toNat)

/-- The quotient and remainder of `num / (den · 2 ^ e)`, with the divisor they refer to. -/
def divPow2 (num den : Nat) (e : Int) : Nat × Nat × Nat :=
  let n := num * Nat.pow 2 (-e).toNat
  let d := den * Nat.pow 2 e.toNat
  (n / d, n % d, d)

/-- The exponent `e` at which `num / (den · 2 ^ e)` lies in `[2 ^ 52, 2 ^ 53)`, for `num > 0`.
The first guess from the bit lengths is off by at most one either way. -/
def normalExponent (num den : Nat) : Int :=
  let guess : Int := (Nat.log2 num : Int) - (Nat.log2 den : Int) - 52
  let q := (divPow2 num den guess).1
  if q < Nat.pow 2 52 then guess - 1 else if Nat.pow 2 53 ≤ q then guess + 1 else guess

/-- The bit pattern of the positive infinity. -/
def infinityBits : UInt64 := 0x7FF0000000000000

/-- The bit pattern of the binary64 value nearest to `num / den` (`den > 0`), a tie going to
the even mantissa. Values past the largest finite one round to the infinity. -/
def nearestBits (num den : Nat) : UInt64 :=
  if num == 0 || den == 0 then 0 else
  let e := max (normalExponent num den) minExponent
  let (q, r, d) := divPow2 num den e
  let q := if 2 * r > d || (2 * r == d && q % 2 == 1) then q + 1 else q
  let (q, e) := if q == Nat.pow 2 53 then (Nat.pow 2 52, e + 1) else (q, e)
  if q < Nat.pow 2 52 then q.toUInt64
  else
    let biased := e + 1075
    if 2047 ≤ biased then infinityBits
    else (biased.toNat * Nat.pow 2 52 + (q - Nat.pow 2 52)).toUInt64

/-- The float nearest to `num / den`, a tie going to the even mantissa. -/
def nearest (num den : Nat) : Float := Float.ofBits (nearestBits num den)

/-- The float nearest to `digits · 10 ^ exponent`. -/
def ofDecimal (digits : Nat) (exponent : Int) : Float :=
  nearest (digits * Nat.pow 10 exponent.toNat) (Nat.pow 10 (-exponent).toNat)

example : nearestBits 1 1 = 0x3FF0000000000000 := by decide
example : nearestBits 1 10 = 0x3FB999999999999A := by decide

end ZoneBridge.Decimal
