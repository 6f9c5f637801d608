import ZoneBridge.Decimal.Binary

/-!
# The shortest decimal that reads back

A positive binary64 value `m · 2 ^ e` stands for every real that rounds to it: the interval
from halfway to its lower neighbour to halfway to its upper one, the ends included when `m`
is even (a tie rounds to the even mantissa). The shortest decimal of the value is the decimal
with the fewest significant digits inside that interval, and of two such the nearer to the
value. On the grid of `p`-digit decimals, some point lies in the interval exactly when one of
the value's two neighbours on the grid does, so the search tests two candidates for each
`p = 1, 2, …, 17`; seventeen digits always suffice.
-/

namespace ZoneBridge.Decimal

/-- The number `digits · 10 ^ exponent`. -/
structure Scientific where
  /-- The significant digits, as a number. -/
  digits : Nat
  /-- The power of ten they are scaled by. -/
  exponent : Int
deriving DecidableEq, Repr

/-- The reals that round to the positive value `m · 2 ^ e`, in units of `2 ^ (e - 2)`. -/
structure Interval where
  /-- The lower end. -/
  low : Nat
  /-- The upper end. -/
  high : Nat
  /-- Whether the ends round to the value too. -/
  closed : Bool

/-- The rounding interval of `m · 2 ^ e`. At the bottom of a binade (and above the subnormal
range) the lower neighbour is half as far away as the upper one. -/
def Interval.around (m : Nat) (e : Int) : Interval where
  low := if m == Nat.pow 2 52 && e > minExponent then 4 * m - 1 else 4 * m - 2
  high := 4 * m + 2
  closed := m % 2 == 0

/-- Whether `d · 10 ^ k` lies in the rounding interval of `m · 2 ^ e`. -/
def Interval.contains (iv : Interval) (e : Int) (d : Nat) (k : Int) : Bool :=
  let aboveLow := match compareScaled d k iv.low (e - 2) with
    | .gt => true
    | .eq => iv.closed
    | .lt => false
  let belowHigh := match compareScaled d k iv.high (e - 2) with
    | .lt => true
    | .eq => iv.closed
    | .gt => false
  aboveLow && belowHigh

/-- The power of ten `E` with `10 ^ E ≤ m · 2 ^ e < 10 ^ (E + 1)`, for `m > 0`. The guess from
the bit length is off by at most one. -/
def decimalExponent (m : Nat) (e : Int) : Int :=
  let guess := Int.fdiv (((Nat.log2 m : Int) + e) * 30103) 100000
  let down (k : Int) := if compareScaled 1 k m e == .gt then k - 1 else k
  let up (k : Int) := if compareScaled 1 (k + 1) m e == .gt then k else k + 1
  up (up (down (down guess)))

/-- The decimal with `p` significant digits nearest to `m · 2 ^ e` among those inside its
rounding interval, if there is one. `top` is the value's decimal exponent. -/
def candidate (m : Nat) (e : Int) (top : Int) (p : Nat) : Option Scientific :=
  let iv := Interval.around m e
  let k := top + 1 - p
  let num := m * Nat.pow 2 e.toNat * Nat.pow 10 (-k).toNat
  let den := Nat.pow 2 (-e).toNat * Nat.pow 10 k.toNat
  let d := num / den
  let r := num % den
  match iv.contains e d k, iv.contains e (d + 1) k with
  | true, true =>
    if 2 * r < den then some ⟨d, k⟩
    else if 2 * r > den then some ⟨d + 1, k⟩
    else if d % 2 == 0 then some ⟨d, k⟩ else some ⟨d + 1, k⟩
  | true, false => some ⟨d, k⟩
  | false, true => some ⟨d + 1, k⟩
  | false, false => none

/-- Drops trailing zeros of the digits into the exponent. -/
def Scientific.trim (x : Scientific) : Scientific :=
  go x.digits x.exponent x.digits
where
  /-- At most `fuel` zeros are dropped; the digits themselves bound their count. -/
  go (d : Nat) (k : Int) : Nat → Scientific
    | 0 => ⟨d, k⟩
    | fuel + 1 => if d != 0 && d % 10 == 0 then go (d / 10) (k + 1) fuel else ⟨d, k⟩

/-- The shortest decimal of the positive value `m · 2 ^ e`, trailing zeros dropped. -/
def shortest (m : Nat) (e : Int) : Scientific :=
  let top := decimalExponent m e
  let hit := ((List.range 17).map (· + 1)).findSome? (candidate m e top)
  (hit.getD ⟨m * Nat.pow 2 e.toNat, 0⟩).trim

example : shortest 1 0 = ⟨1, 0⟩ := by decide

end ZoneBridge.Decimal
