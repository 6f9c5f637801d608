import ZoneBridge.Json.Read
import ZoneBridge.Json.Decode

/-!
# Typed values straight from a text

Readers of typed values that work on the text itself rather than on a data value read first.
They see the text as it comes, so their errors carry positions, and they differ from the data
value readers in a few visible ways:

* a value of the wrong kind is read in full before it is refused (a string is refused with its
  contents, a number with its value), except an array or object, which is refused at its first
  byte;
* a record reads its keys in the order of the text: a key seen twice is refused before its
  value, an unknown key's value is checked and passed over, and a required field that is missing
  is reported after the closing brace, in declaration order;
* an error without a position gets the position the reader reached when the error came out:
  for a value inside an array or object, that is after the closing bracket or brace was looked
  for.

Keys of a map with numeric keys are numbers written in quotes.
-/

namespace ZoneBridge

namespace Reading

section
variable (src : ByteArray)

/-- A result computed off the text, its error placed where the reader stands. -/
def ofExcept {α : Type} (r : Except JsonError α) : Reading α := fun i =>
  match r with
  | .ok a => .ok a i
  | .error e => .error e i

/-- Reads the value ahead only to refuse it as not what was wanted, naming what it is. -/
def refuseAhead {α : Type} (w : Wanted) : Reading α := placing src do
  match ← peek src with
  | some 110 => do bump; word src [117, 108, 108]; refuse (.invalidType .null w)
  | some 116 => do bump; word src [114, 117, 101]; refuse (.invalidType (.bool true) w)
  | some 102 => do bump; word src [97, 108, 115, 101]; refuse (.invalidType (.bool false) w)
  | some 45 => do bump; refuse (.invalidType (Json.number (← number src false)).found w)
  | some 34 => do bump; refuse (.invalidType (.str (← string src)) w)
  | some 91 => refuse (.invalidType .sequence w)
  | some 123 => refuse (.invalidType .map w)
  | some b =>
    if isDigit b then do refuse (.invalidType (Json.number (← number src true)).found w)
    else failAhead src .expectedValue
  | none => failAhead src .expectedValue

/-- Reads a value that starts with one of some bytes; anything else is refused as not
`wanted`, and the end of the text is an error. -/
def expecting {α : Type} (wanted : Wanted) (starts : UInt8 → Bool) (body : Reading α) :
    Reading α := placing src do
  match ← skipBlanks src with
  | none => failAhead src .eofInValue
  | some b => if starts b then body else refuseAhead src wanted

/-- Reads a string. -/
def typedString : Reading String :=
  expecting src .string (· == 34) do bump; string src

/-- Reads an integer within `[lo, hi]`; a float or an integer outside is refused. -/
def typedInteger (lo hi : Int) (w : Wanted) : Reading Int :=
  expecting src w (fun b => b == 45 || isDigit b) do
    let n ← match ← peek src with
      | some 45 => do bump; number src false
      | _ => number src true
    ofExcept (Decoder.integer lo hi w (.number n))

/-- Reads an 8-bit unsigned integer. -/
def typedU8 : Reading UInt8 := do
  pure (← typedInteger src 0 255 .u8).toNat.toUInt8

/-- Reads a 32-bit signed integer. -/
def typedI32 : Reading Int := typedInteger src (-2147483648) 2147483647 .i32

/-- Reads `null` as none, anything else by `read`. -/
def typedOption {α : Type} (read : Reading α) : Reading (Option α) := do
  match ← skipBlanks src with
  | some 110 => do bump; word src [117, 108, 108]; pure none
  | _ => some <$> read

/-- Reads a unit: `null`. -/
def typedUnit : Reading Unit :=
  expecting src .unit (· == 110) do bump; word src [117, 108, 108]

/-- Reads a key of a map with numeric keys, standing at its opening quote: the number written
in the quotes, read by `read`. -/
def numericKey {α : Type} (read : Reading α) : Reading α := do
  bump
  match ← peek src with
  | some b => if isDigit b || b == 45 then pure () else fail src .expectedNumericKey
  | none => fail src .expectedNumericKey
  let v ← read
  match ← peek src with
  | some 34 => bump
  | _ => failAhead src .expectedDoubleQuote
  pure v

/-- Looks for the next key of an object and stops at its opening quote; `false` at the closing
brace, which is not taken. -/
def keyAhead (first : Bool) : Reading Bool := do
  let b ← skipBlanks src
  let b ← match b with
    | some 125 => return false
    | some 44 => if first then pure (some 44) else do bump; skipBlanks src
    | some c => if first then pure (some c) else failAhead src .expectedObjectCommaOrEnd
    | none => failAhead src .eofInObject
  match b with
  | some 34 => pure true
  | some 125 => failAhead src .trailingComma
  | some _ => failAhead src .keyMustBeString
  | none => failAhead src .eofInValue

/-- Reads the entries of a map with 8-bit numeric keys up to its closing brace; a later value
for a key replaces the earlier one. -/
def idEntries (first : Bool) (acc : List (UInt8 × String)) : Nat → Reading (List (UInt8 × String))
  | 0 => fail src .eofInObject
  | fuel + 1 => do
    if ← keyAhead src first then
      let k ← numericKey src (typedU8 src)
      colon src
      let v ← typedString src
      idEntries false (acc ++ [(k, v)]) fuel
    else pure acc

/-- Reads a map from 8-bit ids to names. -/
def typedIdMap (depth : Nat) : Reading (List (UInt8 × String)) :=
  expecting src .map (· == 123) do
    let _ ← enter src depth
    bump
    thenClosing (fun i => idEntries src true [] (src.size - i + 2) i) (closeObject src)

/-- Reads a variant name among `variants`, giving its index. -/
def variantName (variants : List String) : Reading Nat :=
  expecting src .variantIdentifier (· == 34) do
    bump
    ofExcept (Decoder.variantIndex variants (← string src))

/-- Reads an enumeration whose variants carry nothing: the variant's name, or an object whose
one key is the name and whose value is `null`. Inside the object the key is looked for as a key:
anything but a string there is refused as a key before any value is read. -/
def typedUnitVariant (variants : List String) (depth : Nat) : Reading Nat := do
  match ← skipBlanks src with
  | some 123 => do
    let _ ← enter src depth
    bump
    match ← skipBlanks src with
    | some 34 => pure ()
    | some 125 => failAhead src .expectedValue
    | some _ => failAhead src .keyMustBeString
    | none => failAhead src .eofInObject
    let i ← variantName src variants
    colon src
    typedUnit src
    match ← skipBlanks src with
    | some 125 => do bump; pure i
    | some _ => fail src .expectedValue
    | none => fail src .eofInObject
  | some 34 => variantName src variants
  | some _ => failAhead src .expectedValue
  | none => failAhead src .eofInValue

end

end Reading

namespace Decoder

/-- Reads the key of a data value's object as an 8-bit number, as a map with numeric keys reads
its keys: the key's own text is read as a number, so a fault inside the number is placed within
the key, while a key that does not start like a number, or goes on after it, is refused with no
place at all. -/
def numericKeyU8 (key : String) : Except JsonError UInt8 :=
  let src := key.toUTF8
  let body : Reading UInt8 := do
    match ← Reading.peek src with
    | some b =>
      if Reading.isDigit b || b == 45 then pure () else Reading.refuse (.text .expectedNumericKey)
    | none => Reading.refuse (.text .expectedNumericKey)
    let n ← Reading.typedU8 src
    match ← Reading.peek src with
    | some _ => Reading.refuse (.text .expectedNumericKey)
    | none => pure n
  match body 0 with
  | .ok n _ => .ok n
  | .error e _ => .error e

/-- A map from 8-bit numeric keys to strings, from an object read in key order: each key is read
before its value. -/
def idMap : Decoder (List (UInt8 × String))
  | .object fields => fields.mapM fun (k, v) => do pure (← numericKeyU8 k, ← string v)
  | v => refuse (.invalidType v.found .map)

end Decoder

/-- One field of a record read from a text. -/
structure TextField (β : Type) where
  name : String
  optional : Bool := false
  /-- Reads the field's value at the given nesting depth into the record being built. -/
  put : ByteArray → Nat → β → Reading β

/-- How records of one type are read from a text. -/
structure TextRecord (β : Type) where
  /-- What the record is called in errors: `struct Name`. -/
  title : String
  fields : List (TextField β)
  /-- The record before any field is read: optional fields hold their defaults. -/
  blank : β

namespace TextRecord

variable {β : Type} (r : TextRecord β) (src : ByteArray)

/-- Reads the elements of an array as the fields in declaration order; a required field with
no element left is refused. -/
def putItems (depth : Nat) (first : Bool) (i : Nat) (acc : β) : List (TextField β) → Reading β
  | [] => pure acc
  | f :: fs => do
    if ← Reading.nextItem src first then
      putItems depth false (i + 1) (← f.put src depth acc) fs
    else if f.optional then putItems depth first (i + 1) acc fs
    else Reading.refuse (.invalidLength i (.recordOf r.title r.fields.length))

/-- Reads the entries of an object in text order, remembering the fields seen. -/
def putEntries (depth : Nat) (first : Bool) (seen : List String) (acc : β) :
    Nat → Reading (β × List String)
  | 0 => Reading.fail src .eofInObject
  | fuel + 1 => do
    if ← Reading.keyAhead src first then
      Reading.bump
      let k ← Reading.string src
      match r.fields.find? (·.name == k) with
      | some f =>
        if seen.contains k then Reading.refuse (.duplicateField k)
        else
          Reading.colon src
          putEntries depth false (k :: seen) (← f.put src depth acc) fuel
      | none =>
        Reading.colon src
        Reading.skip src
        putEntries depth false seen acc fuel
    else pure (acc, seen)

/-- Reads the record from an object or an array. -/
def read (depth : Nat) : Reading β :=
  Reading.expecting src (.record r.title) (fun b => b == 91 || b == 123) do
    match ← Reading.peek src with
    | some 91 => do
      let d ← Reading.enter src depth
      Reading.bump
      Reading.thenClosing (r.putItems src d true 0 r.blank r.fields) (Reading.closeArray src)
    | _ => do
      let d ← Reading.enter src depth
      Reading.bump
      let body : Reading β := fun i =>
        (do
          let (acc, seen) ← r.putEntries src d true [] r.blank (src.size - i + 2)
          match r.fields.find? (fun (f : TextField β) => !f.optional && !seen.contains f.name) with
          | some f => Reading.refuse (.missingField f.name)
          | none => pure acc) i
      Reading.thenClosing body (Reading.closeObject src)

end TextRecord

end ZoneBridge
