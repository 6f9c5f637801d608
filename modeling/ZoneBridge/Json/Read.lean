import ZoneBridge.Json.Error

/-!
# Reading data values from text

The reader walks the UTF-8 bytes of a text once, left to right, and stops at the first fault.
Where it stops decides the position in the error, so each step below states how far it has read
when it fails: `fail` reports the bytes read so far, `failAhead` one byte further (the byte that
was looked at but not taken). Blanks are space, tab, line feed and carriage return.

Numbers keep their kind: digits alone are a natural number while they fit below `2 ^ 64`, a
minus sign makes a negative integer down to `-2 ^ 63`, and anything else (a fraction, an
exponent, a longer integer, `-0`) is a float. The float of `digits · 10 ^ exponent` is found by
converting the digits (at most nineteen of them count) to the nearest float and then multiplying or
dividing once by the nearest float of the power of ten, so it may be one unit away from the
nearest float. An exponent that makes a non-zero number infinite is a fault.

The functions here are the building blocks of `Json.parse` and of the typed readers of
`Json.Typed`.
-/

namespace ZoneBridge

/-- The state of a reader: how many bytes of the text it has taken. -/
abbrev Reading := EStateM JsonError Nat

namespace Reading

section
variable (src : ByteArray)

/-- The position just before the byte at index `i`. -/
def positionAt (i : Nat) : Position :=
  let before := (src.extract 0 i).toList
  let line := 1 + before.count 10
  let lineStart := match (before.zipIdx.filter (·.1 == 10)).getLast? with
    | some (_, j) => j + 1
    | none => 0
  ⟨line, i - lineStart⟩

/-- Fails with a fault at the bytes read so far. -/
def fail {α : Type} (f : TextFault) : Reading α := fun i =>
  .error { fault := .text f, position := some (positionAt src i) } i

/-- Fails with a fault one byte past the bytes read so far. -/
def failAhead {α : Type} (f : TextFault) : Reading α := fun i =>
  .error { fault := .text f, position := some (positionAt src (min src.size (i + 1))) } i

/-- Fails with a cause found in the typed value rather than in the text; the reader that asked
for the value adds the position. -/
def refuse {α : Type} (f : Fault) : Reading α := fun i => .error { fault := f } i

/-- Gives a cause without a position the position reached when it comes out. -/
def placing {α : Type} (body : Reading α) : Reading α := fun i =>
  match body i with
  | .ok a j => .ok a j
  | .error e j =>
    .error (if e.position.isNone then { e with position := some (positionAt src j) } else e) j

/-- Runs `body`, then `closing` whatever the outcome of `body`; a fault of `body` wins. -/
def thenClosing {α : Type} (body : Reading α) (closing : Reading Unit) : Reading α := fun i =>
  match body i with
  | .ok a j =>
    match closing j with
    | .ok _ k => .ok a k
    | .error e k => .error e k
  | .error e j =>
    match closing j with
    | .ok _ k => .error e k
    | .error _ k => .error e k

end

/-- The byte at the reading position, if any. -/
def peek (src : ByteArray) : Reading (Option UInt8) := fun i =>
  .ok (if h : i < src.size then some src[i] else none) i

/-- Takes one byte. -/
def bump : Reading Unit := fun i => .ok () (i + 1)

/-- Takes the next byte, if any. -/
def next (src : ByteArray) : Reading (Option UInt8) := fun i =>
  if h : i < src.size then .ok (some src[i]) (i + 1) else .ok none i

/-- Whether a byte is a blank. -/
def isBlank (b : UInt8) : Bool := b == 32 || b == 10 || b == 9 || b == 13

/-- Whether a byte is an ASCII digit. -/
def isDigit (b : UInt8) : Bool := 48 ≤ b && b ≤ 57

/-- Skips blanks and looks at the byte after them. -/
def skipBlanks (src : ByteArray) : Reading (Option UInt8) := fun i =>
  let j := go i (src.size - i)
  .ok (if h : j < src.size then some src[j] else none) j
where
  /-- Moves past at most `fuel` blanks. -/
  go (i : Nat) : Nat → Nat
    | 0 => i
    | fuel + 1 => if h : i < src.size then (if isBlank src[i] then go (i + 1) fuel else i) else i

/-- Takes the rest of a literal word (`ull` after `n`), failing at the first other byte. -/
def word (src : ByteArray) : List UInt8 → Reading Unit
  | [] => pure ()
  | b :: rest => do
    match ← next src with
    | none => fail src .eofInValue
    | some c => if c == b then word src rest else fail src .expectedIdent

/-! ### Strings -/

/-- The value of a hex digit. -/
def hexValue (b : UInt8) : Option Nat :=
  if 48 ≤ b && b ≤ 57 then some (b - 48).toNat
  else if 97 ≤ b && b ≤ 102 then some (b - 87).toNat
  else if 65 ≤ b && b ≤ 70 then some (b - 55).toNat
  else none

/-- Reads the four hex digits of a `\u` escape. All four are taken before they are checked. -/
def hexEscape (src : ByteArray) : Reading Nat := fun i =>
  if i + 4 ≤ src.size then
    let ds := (src.extract i (i + 4)).toList.map hexValue
    match ds with
    | [some a, some b, some c, some d] => .ok (((a * 16 + b) * 16 + c) * 16 + d) (i + 4)
    | _ => fail src .invalidEscape (i + 4)
  else fail src .eofInString src.size

/-- The UTF-8 bytes of a code point. -/
def utf8Bytes (n : Nat) : List UInt8 :=
  if n < 0x80 then [n.toUInt8]
  else if n < 0x800 then [(0xC0 + n / 64).toUInt8, (0x80 + n % 64).toUInt8]
  else if n < 0x10000 then
    [(0xE0 + n / 4096).toUInt8, (0x80 + n / 64 % 64).toUInt8, (0x80 + n % 64).toUInt8]
  else
    [(0xF0 + n / 262144).toUInt8, (0x80 + n / 4096 % 64).toUInt8, (0x80 + n / 64 % 64).toUInt8,
      (0x80 + n % 64).toUInt8]

/-- Takes the next byte of an escape; the text may not end here. -/
def escapeByte (src : ByteArray) : Reading UInt8 := do
  match ← next src with
  | some b => pure b
  | none => fail src .eofInString

/-- Reads a `\u` escape after the `u`: a code point, or a pair of surrogates written as two
escapes in a row. A trailing surrogate alone, or a leading one not followed by a trailing one,
is a fault. -/
def unicodeEscape (src : ByteArray) : Reading (List UInt8) := do
  let n ← hexEscape src
  if 0xDC00 ≤ n && n ≤ 0xDFFF then fail src .loneSurrogate
  else if n < 0xD800 || n > 0xDBFF then pure (utf8Bytes n)
  else
    let b ← peek src
    match b with
    | none => fail src .eofInString
    | some b =>
      bump
      if b != 92 then fail src .unexpectedEndOfHexEscape
      else
        let u ← peek src
        match u with
        | none => fail src .eofInString
        | some u =>
          bump
          if u != 117 then fail src .unexpectedEndOfHexEscape
          else
            let m ← hexEscape src
            if m < 0xDC00 || m > 0xDFFF then fail src .loneSurrogate
            else pure (utf8Bytes ((n - 0xD800) * 1024 + (m - 0xDC00) + 0x10000))

/-- Reads one escape after its backslash, giving the bytes it stands for. -/
def escape (src : ByteArray) : Reading (List UInt8) := do
  let c ← escapeByte src
  if c == 34 || c == 92 || c == 47 then pure [c]
  else if c == 98 then pure [8]
  else if c == 102 then pure [12]
  else if c == 110 then pure [10]
  else if c == 114 then pure [13]
  else if c == 116 then pure [9]
  else if c == 117 then unicodeEscape src
  else fail src .invalidEscape

/-- Reads the rest of a string after its opening quote, up to and with the closing quote. -/
def stringBody (src : ByteArray) : Nat → ByteArray → Reading String
  | 0, _ => fail src .eofInString
  | fuel + 1, acc => do
    match ← next src with
    | none => fail src .eofInString
    | some b =>
      if b == 34 then pure (String.fromUTF8? acc |>.getD "")
      else if b == 92 then
        let bytes ← escape src
        stringBody src fuel (bytes.foldl ByteArray.push acc)
      else if b < 32 then fail src .controlCharacter
      else stringBody src fuel (acc.push b)

/-- Reads a string after its opening quote. -/
def string (src : ByteArray) : Reading String := fun i =>
  stringBody src (src.size - i + 1) ByteArray.empty i

/-- Skips one escape after its backslash, checking only its form. -/
def skipEscape (src : ByteArray) : Reading Unit := do
  let c ← escapeByte src
  if c == 34 || c == 92 || c == 47 || c == 98 || c == 102 || c == 110 || c == 114 || c == 116 then
    pure ()
  else if c == 117 then do let _ ← hexEscape src; pure ()
  else fail src .invalidEscape

/-- Skips the rest of a string after its opening quote. -/
def skipStringBody (src : ByteArray) : Nat → Reading Unit
  | 0 => fail src .eofInString
  | fuel + 1 => do
    match ← peek src with
    | none => fail src .eofInString
    | some b =>
      if b == 34 then bump
      else if b == 92 then do bump; skipEscape src; skipStringBody src fuel
      else if b < 32 then fail src .controlCharacter
      else do bump; skipStringBody src fuel

/-- Skips a string after its opening quote. -/
def skipString (src : ByteArray) : Reading Unit := fun i =>
  skipStringBody src (src.size - i + 1) i

/-! ### Numbers -/

/-- The largest integer the reader keeps as a natural number. -/
def naturalLimit : Nat := Nat.pow 2 64 - 1

/-- The floats of the powers of ten `10 ^ 0` to `10 ^ 308`. -/
def powersOfTen : Array Float := (List.range 309).toArray.map fun i => Decimal.nearest (Nat.pow 10 i) 1

/-- The float of `significand · 10 ^ exponent`: the significand's nearest float, then one
multiplication or division by a power of ten, or several divisions by `10 ^ 308` for very small
exponents. A non-zero value that overflows is a fault. -/
def composeFloat (src : ByteArray) (positive : Bool) (significand : Nat) (exponent : Int) :
    Reading Float :=
  let start := Decimal.nearest significand 1
  let finish (f : Float) : Reading Float := pure (if positive then f else -f)
  go start exponent ((-exponent).toNat / 308 + 2) finish
where
  /-- Scales `f` by `10 ^ e`; `fuel` bounds the divisions by `10 ^ 308`. -/
  go (f : Float) (e : Int) (fuel : Nat) (finish : Float → Reading Float) : Reading Float :=
    match fuel with
    | 0 => finish f
    | fuel + 1 =>
      if h : e.natAbs < powersOfTen.size then
        let p := powersOfTen[e.natAbs]
        if 0 ≤ e then
          let g := f * p
          if g.isInf then fail src .numberOutOfRange else finish g
        else finish (f / p)
      else if f == 0.0 then finish f
      else if 0 ≤ e then fail src .numberOutOfRange
      else go (f / Decimal.nearest (Nat.pow 10 308) 1) (e + 308) fuel finish

/-- The number of a negative integer with the given digits: `-0` and integers below `-2 ^ 63`
are floats. -/
def negativeInteger (significand : Nat) : JsonNumber :=
  if significand == 0 then .float (-0.0)
  else if significand ≤ Nat.pow 2 63 then .negative (-(significand : Int))
  else .float (-(Decimal.nearest significand 1))

/-- Saturates an exponent to the 32-bit range. -/
def saturate (e : Int) : Int := max (-2147483648) (min 2147483647 e)

/-- Skips digits after an exponent grew too large. The number is zero when its digits are or the
exponent is negative; otherwise it is out of range. -/
def exponentOverflow (src : ByteArray) (positive zero positiveExponent : Bool) : Reading Float := do
  if !zero && positiveExponent then fail src .numberOutOfRange
  else
    skipDigits src (src.size + 1)
    pure (if positive then 0.0 else -0.0)
where
  /-- Skips at most `fuel` digits. -/
  skipDigits (src : ByteArray) : Nat → Reading Unit
    | 0 => pure ()
    | fuel + 1 => do
      match ← peek src with
      | some b => if isDigit b then do bump; skipDigits src fuel else pure ()
      | none => pure ()

/-- Reads the digits of an exponent into `acc`. -/
def exponentDigits (src : ByteArray) (positive zero positiveExponent : Bool) (start : Int)
    (significand : Nat) : Nat → Nat → Reading Float
  | 0, _ => fail src .invalidNumber
  | fuel + 1, acc => do
    match ← peek src with
    | some b =>
      if isDigit b then do
        bump
        let acc' := acc * 10 + (b - 48).toNat
        if acc' > 2147483647 then exponentOverflow src positive zero positiveExponent
        else exponentDigits src positive zero positiveExponent start significand fuel acc'
      else finishExponent acc
    | none => finishExponent acc
where
  /-- Builds the float once the exponent is read. -/
  finishExponent (acc : Nat) : Reading Float :=
    let e := if positiveExponent then saturate (start + acc) else saturate (start - acc)
    composeFloat src positive significand e

/-- Reads an exponent after its `e`. -/
def exponentPart (src : ByteArray) (positive : Bool) (significand : Nat) (start : Int) :
    Reading Float := do
  bump
  let positiveExponent ← do
    match ← peek src with
    | some 43 => do bump; pure true
    | some 45 => do bump; pure false
    | _ => pure true
  match ← next src with
  | none => fail src .eofInValue
  | some b =>
    if isDigit b then
      exponentDigits src positive (significand == 0) positiveExponent start significand
        (src.size + 1) (b - 48).toNat
    else fail src .invalidNumber

/-- Skips the remaining digits of a fraction whose significand is full. -/
def fractionOverflow (src : ByteArray) (positive : Bool) (significand : Nat) (exponent : Int) :
    Reading Float := do
  exponentOverflow.skipDigits src (src.size + 1)
  match ← peek src with
  | some 101 | some 69 => exponentPart src positive significand exponent
  | _ => composeFloat src positive significand exponent

/-- Reads the digits of a fraction after its point. -/
def fractionDigits (src : ByteArray) (positive : Bool) (start : Int) :
    Nat → Nat → Nat → Reading Float
  | 0, _, _ => fail src .invalidNumber
  | fuel + 1, significand, count => do
    match ← peek src with
    | some b =>
      if isDigit b then
        let s' := significand * 10 + (b - 48).toNat
        if s' > naturalLimit then fractionOverflow src positive significand (start - count)
        else do bump; fractionDigits src positive start fuel s' (count + 1)
      else done significand count
    | none => done significand count
where
  /-- Builds the float once the fraction is read; it needs one digit. -/
  done (significand count : Nat) : Reading Float := do
    if count == 0 then
      match ← peek src with
      | some _ => failAhead src .invalidNumber
      | none => failAhead src .eofInValue
    else
      match ← peek src with
      | some 101 | some 69 => exponentPart src positive significand (start - count)
      | _ => composeFloat src positive significand (start - count)

/-- Reads a fraction after the integer digits, at its point. -/
def fractionPart (src : ByteArray) (positive : Bool) (significand : Nat) (start : Int) :
    Reading Float := do
  bump
  fractionDigits src positive start (src.size + 1) significand 0

/-- Reads the rest of an integer too long for a natural number: its digits only raise the
exponent. -/
def longInteger (src : ByteArray) (positive : Bool) (significand : Nat) : Nat → Nat → Reading Float
  | 0, _ => fail src .invalidNumber
  | fuel + 1, extra => do
    match ← peek src with
    | some b =>
      if isDigit b then do bump; longInteger src positive significand fuel (extra + 1)
      else if b == 46 then fractionPart src positive significand extra
      else if b == 101 || b == 69 then exponentPart src positive significand extra
      else composeFloat src positive significand extra
    | none => composeFloat src positive significand extra

/-- Reads what follows the integer digits: a fraction, an exponent, or nothing. -/
def afterInteger (src : ByteArray) (positive : Bool) (significand : Nat) : Reading JsonNumber := do
  match ← peek src with
  | some 46 => return .float (← fractionPart src positive significand 0)
  | some 101 | some 69 => return .float (← exponentPart src positive significand 0)
  | _ => return if positive then .natural significand else negativeInteger significand

/-- Reads the digits of an integer after its first one. -/
def integerDigits (src : ByteArray) (positive : Bool) : Nat → Nat → Reading JsonNumber
  | 0, _ => fail src .invalidNumber
  | fuel + 1, significand => do
    match ← peek src with
    | some b =>
      if isDigit b then
        let s' := significand * 10 + (b - 48).toNat
        if s' > naturalLimit then return .float (← longInteger src positive significand (src.size + 1) 0)
        else do bump; integerDigits src positive fuel s'
      else afterInteger src positive significand
    | none => afterInteger src positive significand

/-- Reads a number after its sign: one leading zero at most, then a fraction and an exponent. -/
def number (src : ByteArray) (positive : Bool) : Reading JsonNumber := do
  match ← next src with
  | none => fail src .eofInValue
  | some 48 =>
    match ← peek src with
    | some b => if isDigit b then failAhead src .invalidNumber else afterInteger src positive 0
    | none => afterInteger src positive 0
  | some b =>
    if isDigit b then integerDigits src positive (src.size + 1) (b - 48).toNat
    else fail src .invalidNumber

/-! ### Skipping values -/

/-- Checks the form of a number without keeping it. -/
def skipNumber (src : ByteArray) : Reading Unit := do
  let first ← fun i => if h : i < src.size then EStateM.Result.ok src[i] (i + 1) else .ok 0 i
  if first == 48 then
    match ← peek src with
    | some b => if isDigit b then failAhead src .invalidNumber else pure ()
    | none => pure ()
  else if isDigit first then exponentOverflow.skipDigits src (src.size + 1)
  else fail src .invalidNumber
  match ← peek src with
  | some 46 => do
    bump
    match ← peek src with
    | some b => if isDigit b then exponentOverflow.skipDigits src (src.size + 1) else failAhead src .invalidNumber
    | none => failAhead src .invalidNumber
    match ← peek src with
    | some 101 | some 69 => skipExponent
    | _ => pure ()
  | some 101 | some 69 => skipExponent
  | _ => pure ()
where
  /-- Checks the form of an exponent, at its `e`. -/
  skipExponent : Reading Unit := do
    bump
    match ← peek src with
    | some 43 | some 45 => bump
    | _ => pure ()
    let d ← fun i => if h : i < src.size then EStateM.Result.ok src[i] (i + 1) else .ok 0 i
    if isDigit d then exponentOverflow.skipDigits src (src.size + 1) else fail src .invalidNumber

mutual
/-- Checks the form of any value without keeping it. -/
def skipValue (src : ByteArray) : Nat → Reading Unit
  | 0 => fail src .eofInValue
  | fuel + 1 => do
    match ← skipBlanks src with
    | none => failAhead src .eofInValue
    | some b =>
      if b == 110 then do bump; word src [117, 108, 108]
      else if b == 116 then do bump; word src [114, 117, 101]
      else if b == 102 then do bump; word src [97, 108, 115, 101]
      else if b == 45 then do bump; skipNumber src
      else if isDigit b then skipNumber src
      else if b == 34 then do bump; skipString src
      else if b == 91 then do
        bump
        match ← skipBlanks src with
        | some 93 => bump
        | none => failAhead src .eofInList
        | some _ => do skipValue src fuel; skipItems src fuel
      else if b == 123 then do
        bump
        match ← skipBlanks src with
        | some 125 => bump
        | none => failAhead src .eofInObject
        | some _ => do skipEntry src fuel; skipEntries src fuel
      else failAhead src .expectedValue

/-- Skips the items of an array after its first one, and its closing bracket. -/
def skipItems (src : ByteArray) : Nat → Reading Unit
  | 0 => fail src .eofInList
  | fuel + 1 => do
    match ← skipBlanks src with
    | some 44 => do bump; skipValue src fuel; skipItems src fuel
    | some 93 => bump
    | some _ => failAhead src .expectedListCommaOrEnd
    | none => failAhead src .eofInList

/-- Skips one key, its colon and its value. -/
def skipEntry (src : ByteArray) : Nat → Reading Unit
  | 0 => fail src .eofInObject
  | fuel + 1 => do
    match ← skipBlanks src with
    | some 34 => do bump; skipString src
    | some _ => failAhead src .keyMustBeString
    | none => failAhead src .eofInObject
    match ← skipBlanks src with
    | some 58 => bump
    | some _ => failAhead src .expectedColon
    | none => failAhead src .eofInObject
    skipValue src fuel

/-- Skips the entries of an object after its first one, and its closing brace. -/
def skipEntries (src : ByteArray) : Nat → Reading Unit
  | 0 => fail src .eofInObject
  | fuel + 1 => do
    match ← skipBlanks src with
    | some 44 => do bump; skipEntry src fuel; skipEntries src fuel
    | some 125 => bump
    | some _ => failAhead src .expectedObjectCommaOrEnd
    | none => failAhead src .eofInObject
end

/-- Skips any value. -/
def skip (src : ByteArray) : Reading Unit := fun i => skipValue src (2 * (src.size - i) + 2) i

/-! ### Whole values -/

/-- How deeply arrays and objects may nest. -/
def depthLimit : Nat := 128

/-- Takes the colon between a key and its value. -/
def colon (src : ByteArray) : Reading Unit := do
  match ← skipBlanks src with
  | some 58 => bump
  | some _ => failAhead src .expectedColon
  | none => failAhead src .eofInObject

/-- Takes the closing bracket of an array whose items were all read. -/
def closeArray (src : ByteArray) : Reading Unit := do
  match ← skipBlanks src with
  | some 93 => bump
  | some 44 => do
    bump
    match ← skipBlanks src with
    | some 93 => failAhead src .trailingComma
    | _ => failAhead src .trailingCharacters
  | some _ => failAhead src .trailingCharacters
  | none => failAhead src .eofInList

/-- Takes the closing brace of an object whose entries were all read. -/
def closeObject (src : ByteArray) : Reading Unit := do
  match ← skipBlanks src with
  | some 125 => bump
  | some 44 => failAhead src .trailingComma
  | some _ => failAhead src .trailingCharacters
  | none => failAhead src .eofInObject

/-- Looks for the next item of an array: `none` at the closing bracket (not taken), otherwise
the first byte of the item, after a comma unless it is the first item. -/
def nextItem (src : ByteArray) (first : Bool) : Reading Bool := do
  let b ← skipBlanks src
  let b ← match b with
    | some 93 => return false
    | some 44 => if first then pure (some 44) else do bump; skipBlanks src
    | some c => if first then pure (some c) else failAhead src .expectedListCommaOrEnd
    | none => failAhead src .eofInList
  match b with
  | some 93 => failAhead src .trailingComma
  | some _ => pure true
  | none => failAhead src .eofInValue

/-- Looks for the next key of an object: `none` at the closing brace (not taken), otherwise the
key, after a comma unless it is the first entry. -/
def nextKey (src : ByteArray) (first : Bool) : Reading (Option String) := do
  let b ← skipBlanks src
  let b ← match b with
    | some 125 => return none
    | some 44 => if first then pure (some 44) else do bump; skipBlanks src
    | some c => if first then pure (some c) else failAhead src .expectedObjectCommaOrEnd
    | none => failAhead src .eofInObject
  match b with
  | some 34 => do bump; return some (← string src)
  | some 125 => failAhead src .trailingComma
  | some _ => failAhead src .keyMustBeString
  | none => failAhead src .eofInValue

/-- Counts one more level of nesting before an array or object is entered. -/
def enter (src : ByteArray) (depth : Nat) : Reading Nat :=
  if depth + 1 ≥ depthLimit then failAhead src .recursionLimit else pure (depth + 1)

mutual
/-- Reads any value. -/
def value (src : ByteArray) (depth : Nat) : Nat → Reading Json
  | 0 => fail src .eofInValue
  | fuel + 1 => placing src do
    match ← skipBlanks src with
    | none => failAhead src .eofInValue
    | some b =>
      if b == 110 then do bump; word src [117, 108, 108]; pure .null
      else if b == 116 then do bump; word src [114, 117, 101]; pure (.bool true)
      else if b == 102 then do bump; word src [97, 108, 115, 101]; pure (.bool false)
      else if b == 45 then do bump; return .number (← number src false)
      else if isDigit b then return .number (← number src true)
      else if b == 34 then do bump; return .string (← string src)
      else if b == 91 then do
        let d ← enter src depth
        bump
        thenClosing (items src d true fuel) (closeArray src) |>.map .array
      else if b == 123 then do
        let d ← enter src depth
        bump
        thenClosing (entries src d true [] fuel) (closeObject src) |>.map .object
      else failAhead src .expectedValue

/-- Reads the items of an array up to its closing bracket. -/
def items (src : ByteArray) (depth : Nat) (first : Bool) : Nat → Reading (List Json)
  | 0 => fail src .eofInList
  | fuel + 1 => do
    if ← nextItem src first then
      let x ← value src depth fuel
      let rest ← items src depth false fuel
      pure (x :: rest)
    else pure []

/-- Reads the entries of an object up to its closing brace; a later value for a key replaces
the earlier one. -/
def entries (src : ByteArray) (depth : Nat) (first : Bool) (acc : List (String × Json)) :
    Nat → Reading (List (String × Json))
  | 0 => fail src .eofInObject
  | fuel + 1 => do
    match ← nextKey src first with
    | none => pure acc
    | some k =>
      colon src
      let v ← value src depth fuel
      entries src depth false (Json.insertField k v acc) fuel
end

/-- Takes the end of the text: only blanks may follow the value. -/
def finish (src : ByteArray) : Reading Unit := do
  match ← skipBlanks src with
  | some _ => failAhead src .trailingCharacters
  | none => pure ()

/-- Runs a reader over the whole of a text. -/
def run {α : Type} (src : ByteArray) (body : Reading α) : Except JsonError α :=
  match (do let a ← body; finish src; pure a) 0 with
  | .ok a _ => .ok a
  | .error e _ => .error e

end Reading

/-- Reads a data value from a text. -/
def Json.parse (text : String) : Except JsonError Json :=
  let src := text.toUTF8
  Reading.run src (Reading.value src 0 (2 * src.size + 2))

end ZoneBridge
