import ZoneBridge.Json.Error

/-!
# Typed values from data values

A `Decoder` reads a value of a Lean type out of a data value. The rules are those of the data
format's typed readers:

* an integer type takes integers in its range; a float, or an integer outside the range, is
  refused with what was found;
* a record takes an object or an array. Of an object, the fields are read in key order, unknown
  fields are passed over, and after them the first required field left out (in declaration order)
  is reported. An array gives the fields in declaration order; too few elements is an error
  unless the rest may be left out, too many is an error after all fields were read;
* an enumeration whose variants carry nothing takes the variant's name, or an object whose one
  key is the name and whose value is null;
* an *internally tagged* type reads its variant's name from a tag field and the variant's fields
  from the other fields; an *externally tagged* type takes an object with the variant's name as
  its one key.

Values read through an internally tagged type pass through a buffer that differs in two small
ways, so the decoders take a flag `buffered`: a unit may also be written as an empty object, and
surplus elements of an array are counted against the elements read.
-/

namespace ZoneBridge

/-- A reader of a typed value from a data value. -/
abbrev Decoder (α : Type) := Json → Except JsonError α

namespace Decoder

/-- Refuses with a cause. -/
def refuse {α : Type} (f : Fault) : Except JsonError α := .error (JsonError.ofFault f)

/-- An integer within `[lo, hi]`; a natural number is checked against `hi`, a negative one
against both ends. -/
def integer (lo hi : Int) (w : Wanted) : Decoder Int
  | .number (.natural n) => if (n : Int) ≤ hi then pure n else refuse (.invalidValue (.unsigned n) w)
  | .number (.negative n) =>
    if lo ≤ n ∧ n ≤ hi then pure n else refuse (.invalidValue (.signed n) w)
  | v => refuse (.invalidType v.found w)

/-- An 8-bit unsigned integer. -/
def u8 : Decoder UInt8 := fun v => do
  let n ← integer 0 255 .u8 v
  pure n.toNat.toUInt8

/-- A 32-bit signed integer. -/
def i32 : Decoder Int := integer (-2147483648) 2147483647 .i32

/-- A truth value. -/
def bool : Decoder Bool
  | .bool b => pure b
  | v => refuse (.invalidType v.found .boolean)

/-- A string. -/
def string : Decoder String
  | .string s => pure s
  | v => refuse (.invalidType v.found .string)

/-- A value that may be null. -/
def option {α : Type} (d : Decoder α) : Decoder (Option α)
  | .null => pure none
  | v => some <$> d v

/-- A list of values, from an array. -/
def list {α : Type} (d : Decoder α) : Decoder (List α)
  | .array items => items.mapM d
  | v => refuse (.invalidType v.found .sequence)

/-- The empty value: null, or through the buffer also an empty object. -/
def unit (buffered : Bool) : Decoder Unit
  | .null => pure ()
  | .object [] => if buffered then pure () else refuse (.invalidType .map .unit)
  | v => refuse (.invalidType v.found .unit)

/-- The position of a variant name among the variants. -/
def variantIndex (variants : List String) (name : String) : Except JsonError Nat :=
  match variants.idxOf? name with
  | some i => pure i
  | none => refuse (.unknownVariant name variants)

/-- The variant name and payload of an externally tagged value: a name alone, or an object with
the name as its one key. -/
def external (variants : List String) : Decoder (Nat × Option Json)
  | .string s => do pure (← variantIndex variants s, none)
  | .object [(k, v)] => do pure (← variantIndex variants k, some v)
  | .object _ => refuse (.invalidValue .map .singleKeyMap)
  | v => refuse (.invalidType v.found .stringOrMap)

/-- An enumeration whose variants carry nothing, as the variant's index. -/
def unitVariant (variants : List String) (buffered : Bool) : Decoder Nat := fun v => do
  let (i, payload) ← external variants v
  match payload with
  | none => pure i
  | some p => do unit buffered p; pure i

/-- The variant named by a tag's value. -/
def tagName (variants : List String) : Decoder Nat
  | .string s => variantIndex variants s
  | v => refuse (.invalidType v.found .variantIdentifier)

/-- The variant and remaining content of an internally tagged value: the tag is the field
`tag` of an object, or the first element of an array. -/
def tagged (tag enumName : String) (variants : List String) : Decoder (Nat × Json)
  | .object fields =>
    match fields.lookup tag with
    | some t => do pure (← tagName variants t, .object (fields.filter (·.1 != tag)))
    | none => refuse (.missingField tag)
  | .array [] => refuse (.missingField tag)
  | .array (t :: rest) => do pure (← tagName variants t, .array rest)
  | v => refuse (.invalidType v.found (.taggedEnum enumName))

/-- A variant that carries nothing, read through the buffer: any object will do, an array must
be empty. -/
def unitContent : Decoder Unit
  | .array [] => pure ()
  | .array items => refuse (.invalidLength items.length (.inSequence 0))
  | _ => pure ()

end Decoder

/-- One field of a record: its name, whether it may be left out, and how its value is put into
the record being built. -/
structure Field (β : Type) where
  name : String
  optional : Bool := false
  put : Json → β → Except JsonError β

/-- How records of one type are read. -/
structure Record (β : Type) where
  /-- What the record is called in errors: `struct Name`, `struct variant Enum::Variant`. -/
  title : String
  fields : List (Field β)
  /-- The record before any field is read: optional fields hold their defaults. -/
  blank : β

namespace Record

variable {β : Type}

/-- Reads the fields of an object in key order; unknown keys are passed over. -/
def putFields (r : Record β) (acc : β) : List (String × Json) → Except JsonError β
  | [] => pure acc
  | (k, v) :: rest => do
    match r.fields.find? (·.name == k) with
    | some f => putFields r (← f.put v acc) rest
    | none => putFields r acc rest

/-- Reads the elements of an array as the fields in declaration order. -/
def putItems (r : Record β) (acc : β) : List (Field β) → List Json → Nat → Except JsonError β
  | [], _, _ => pure acc
  | f :: fs, x :: xs, i => do putItems r (← f.put x acc) fs xs (i + 1)
  | f :: fs, [], i =>
    if f.optional then putItems r acc fs [] (i + 1)
    else Decoder.refuse (.invalidLength i (.recordOf r.title r.fields.length))

/-- Reads a record from an object or an array, directly or through the buffer. -/
def decodeIn (r : Record β) (buffered : Bool) : Decoder β
  | .object fields => do
    let acc ← r.putFields r.blank fields
    match r.fields.find? (fun f => !f.optional && (fields.lookup f.name).isNone) with
    | some f => Decoder.refuse (.missingField f.name)
    | none => pure acc
  | .array items => do
    let acc ← r.putItems r.blank r.fields items 0
    if items.length ≤ r.fields.length then pure acc
    else if buffered then
      Decoder.refuse (.invalidLength items.length (.inSequence r.fields.length))
    else Decoder.refuse (.invalidLength items.length .fewerInArray)
  | v => Decoder.refuse (.invalidType v.found (.record r.title))

/-- Reads a record from an object or an array. -/
def decode (r : Record β) : Decoder β := r.decodeIn false

end Record

end ZoneBridge
