import ZoneBridge.Decimal.Binary

/-!
# Reading a decimal number text

Host values may be written as text: an optional sign, then a decimal (`12`, `1.5`, `.5`, `5.`,
each with an optional exponent `e-3`), or one of the words `inf`, `infinity`, `nan` in any
letter case. The value is the float nearest to the decimal, so reading is exact up to the one
rounding the format forces. Any other text, blanks included, is no number.
-/

namespace ZoneBridge.Decimal

/-- The value of a run of ASCII digits. -/
def digitsValue (ds : List Char) : Nat :=
  ds.foldl (fun acc c => acc * 10 + (c.toNat - '0'.toNat)) 0

/-- Splits off the leading ASCII digits. -/
def spanDigits (cs : List Char) : List Char × List Char :=
  (cs.takeWhile Char.isDigit, cs.dropWhile Char.isDigit)

/-- The value of the digits of an exponent, which stops growing once it reaches `2 ^ 16`: an
exponent that large already puts every decimal of a text this reader takes far outside the
range of the format, so the digits after it change nothing. Leading zeros count for nothing. -/
def exponentValue (ds : List Char) : Nat :=
  ds.foldl (fun acc c => if acc < 65536 then acc * 10 + (c.toNat - '0'.toNat) else acc) 0

/-- Reads an exponent part `[+-]digits`, which must end the text. -/
def readExponent (cs : List Char) : Option Int :=
  let (negative, rest) := match cs with
    | '+' :: r => (false, r)
    | '-' :: r => (true, r)
    | r => (false, r)
  let (ds, tail) := spanDigits rest
  if ds.isEmpty || !tail.isEmpty then none
  else
    let n : Int := exponentValue ds
    some (if negative then -n else n)

/-- The float of a decimal with the given digits and power of ten. Far outside the range of
the format the value is zero or the infinity without computing the power. -/
def decimalFloat (digits : Nat) (exponent : Int) : Float :=
  let size : Int := (Nat.toDigits 10 digits).length
  if digits == 0 then 0.0
  else if exponent + size > 310 then Float.ofBits infinityBits
  else if exponent + size < -343 then 0.0
  else ofDecimal digits exponent

/-- Reads an unsigned decimal: digits, an optional point with digits, an optional exponent;
at least one digit stands before or after the point. -/
def readUnsigned (cs : List Char) : Option Float :=
  let (whole, rest) := spanDigits cs
  let (fraction, rest) := match rest with
    | '.' :: r => spanDigits r
    | r => ([], r)
  if whole.isEmpty && fraction.isEmpty then none
  else
    let exponent := match rest with
      | [] => some 0
      | c :: r => if c == 'e' || c == 'E' then readExponent r else none
    exponent.map fun x => decimalFloat (digitsValue (whole ++ fraction)) (x - fraction.length)

/-- Reads a host number text: a sign, then a decimal or a word for NaN or the infinity. -/
def readFloat (s : String) : Option Float :=
  let (negative, body) := match s.toList with
    | '+' :: r => (false, r)
    | '-' :: r => (true, r)
    | r => (false, r)
  let word := String.ofList (body.map Char.toLower)
  let magnitude :=
    if word == "inf" || word == "infinity" then some (Float.ofBits infinityBits)
    else if word == "nan" then some (0.0 / 0.0)
    else readUnsigned body
  magnitude.map fun x => if negative then -x else x

end ZoneBridge.Decimal
