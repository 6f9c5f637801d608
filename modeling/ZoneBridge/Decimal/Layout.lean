import ZoneBridge.Decimal.Shortest

/-!
# Laying out the digits of a float

The shortest digits of a float say nothing about where the point goes. A `Layout` holds those
decisions: the range of point positions written positionally, whether an integral value keeps a
`.0`, the exponent mark, and the words for zero, NaN and the infinities. `Layout.data` is the
layout of the data format this library reads and writes, also used for a float quoted in a
message: positional from `1e-5` up to below `1e16`, `.0` kept, and outside that range an
exponent after `e`, signed also when positive.
-/

namespace ZoneBridge.Decimal

/-- How the shortest digits of a float are written out. -/
structure Layout where
  /-- Point positions `kk` (the value lies in `[10 ^ (kk - 1), 10 ^ kk)`) above this are
  written positionally… -/
  plainAbove : Int
  /-- …up to and including this one. -/
  plainUpTo : Int
  /-- Whether an integral value written positionally ends in `.0`. -/
  pointZero : Bool
  /-- The mark between digits and exponent. -/
  mark : String
  /-- Whether a positive exponent carries a plus sign. -/
  plusSign : Bool
  /-- The word for NaN. -/
  nan : String
  /-- The word for the positive infinity. -/
  infinity : String

/-- The layout of the data format: `0.00001`, `123.0`, `1e+16`, `1.5e-7`, `NaN`, `inf`. -/
def Layout.data : Layout where
  plainAbove := -5
  plainUpTo := 16
  pointZero := true
  mark := "e"
  plusSign := true
  nan := "NaN"
  infinity := "inf"

/-- The decimal digits of a natural number, most significant first. -/
def digitText (n : Nat) : String := String.ofList (Nat.toDigits 10 n)

/-- The text of an exponent. -/
def Layout.exponentText (l : Layout) (x : Int) : String :=
  if x < 0 then "-" ++ digitText x.natAbs
  else (if l.plusSign then "+" else "") ++ digitText x.toNat

/-- Writes the positive decimal `d` without its sign. -/
def Layout.magnitude (l : Layout) (d : Scientific) : String :=
  let s := digitText d.digits
  let n : Int := s.length
  let kk := n + d.exponent
  if 0 ≤ d.exponent && kk ≤ l.plainUpTo then
    s ++ String.ofList (List.replicate d.exponent.toNat '0') ++ (if l.pointZero then ".0" else "")
  else if 0 < kk && kk ≤ l.plainUpTo then
    String.ofList (s.toList.take kk.toNat) ++ "." ++ String.ofList (s.toList.drop kk.toNat)
  else if l.plainAbove < kk && kk ≤ 0 then
    "0." ++ String.ofList (List.replicate kk.natAbs '0') ++ s
  else if n == 1 then
    s ++ l.mark ++ l.exponentText (kk - 1)
  else
    String.ofList (s.toList.take 1) ++ "." ++ String.ofList (s.toList.drop 1) ++ l.mark ++
      l.exponentText (kk - 1)

/-- The text of a float in layout `l`. -/
def Layout.render (l : Layout) (x : Float) : String :=
  match Binary64.ofFloat x with
  | .nan => l.nan
  | .infinity negative => (if negative then "-" else "") ++ l.infinity
  | .finite negative m e =>
    let sign := if negative then "-" else ""
    if m == 0 then sign ++ (if l.pointZero then "0.0" else "0")
    else sign ++ l.magnitude (shortest m e)

end ZoneBridge.Decimal
