import ZoneBridge.Json.Value
import ZoneBridge.Decimal.Layout
import ZoneBridge.Text.Extend

/-!
# Why reading a value failed

A read fails either in the text itself (a `TextFault`, always found at a position) or because
the value has the wrong shape for the type wanted: a wrong kind of value, a value out of range, a
wrong number of elements, a missing or repeated field, or an unknown variant name. `Found` says
what was there and `Wanted` what the type asked for. `JsonError.message` renders the one wording
of each cause; a position, when the text is known, is appended as `at line L column C`, both
counted from the start of the text in bytes, lines from one and columns from zero.
-/

namespace ZoneBridge

/-- A fault in the text itself. -/
inductive TextFault where
  | eofInList
  | eofInObject
  | eofInString
  | eofInValue
  | expectedColon
  | expectedListCommaOrEnd
  | expectedObjectCommaOrEnd
  | expectedIdent
  | expectedValue
  | expectedDoubleQuote
  | invalidEscape
  | invalidNumber
  | numberOutOfRange
  | invalidCodePoint
  | controlCharacter
  | keyMustBeString
  | expectedNumericKey
  | loneSurrogate
  | trailingComma
  | trailingCharacters
  | unexpectedEndOfHexEscape
  | recursionLimit
deriving DecidableEq, Repr

/-- The wording of a fault in the text. -/
def TextFault.message : TextFault → String
  | .eofInList => "EOF while parsing a list"
  | .eofInObject => "EOF while parsing an object"
  | .eofInString => "EOF while parsing a string"
  | .eofInValue => "EOF while parsing a value"
  | .expectedColon => "expected `:`"
  | .expectedListCommaOrEnd => "expected `,` or `]`"
  | .expectedObjectCommaOrEnd => "expected `,` or `\x7d`"
  | .expectedIdent => "expected ident"
  | .expectedValue => "expected value"
  | .expectedDoubleQuote => "expected `\"`"
  | .invalidEscape => "invalid escape"
  | .invalidNumber => "invalid number"
  | .numberOutOfRange => "number out of range"
  | .invalidCodePoint => "invalid unicode code point"
  | .controlCharacter => "control character (\\u0000-\\u001F) found while parsing a string"
  | .keyMustBeString => "key must be a string"
  | .expectedNumericKey => "invalid value: expected key to be a number in quotes"
  | .loneSurrogate => "lone leading surrogate in hex escape"
  | .trailingComma => "trailing comma"
  | .trailingCharacters => "trailing characters"
  | .unexpectedEndOfHexEscape => "unexpected end of hex escape"
  | .recursionLimit => "recursion limit exceeded"

/-- What a reader found where it wanted something else. -/
inductive Found where
  | bool (b : Bool)
  | unsigned (n : Nat)
  | signed (n : Int)
  | float (x : Float)
  | str (s : String)
  | null
  | sequence
  | map
  | unitVariant
  | newtypeVariant
  | structVariant

/-- What a reader wanted. -/
inductive Wanted where
  | u8
  | i32
  | boolean
  | string
  | sequence
  | map
  | unit
  /-- A record, as an object or an array; the title names its kind and type. -/
  | record (title : String)
  /-- A record given as an array of its fields in order. -/
  | recordOf (title : String) (count : Nat)
  | fewerInArray
  | fewerInMap
  | inSequence (count : Nat)
  | stringOrMap
  | taggedEnum (name : String)
  | variantIdentifier
  | newtypeVariant
  | structVariant
  | singleKeyMap

/-- The lowercase hex digits of a number, without leading zeros. -/
def hexText (n : Nat) : String := String.ofList (Nat.toDigits 16 n)

/-- A string shown in double quotes with its special characters escaped: `\t`, `\r`, `\n`,
`\0`, `\\` and `\"` by letter, and as `\u{hex}` every character that extends the one before
it or is not printable. -/
def debugQuote (s : String) : String :=
  let escape (c : Char) : String :=
    if c == '\t' then "\\t"
    else if c == '\r' then "\\r"
    else if c == '\n' then "\\n"
    else if c.toNat == 0 then "\\0"
    else if c == '\\' then "\\\\"
    else if c == '"' then "\\\""
    else if Text.isGraphemeExtend c || !Text.isPrintable c then
      "\\u" ++ "\x7b" ++ hexText c.toNat ++ "\x7d"
    else c.toString
  "\"" ++ String.join (s.toList.map escape) ++ "\""

/-- The wording of what was found. -/
def Found.describe : Found → String
  | .bool b => "boolean `" ++ (if b then "true" else "false") ++ "`"
  | .unsigned n => "integer `" ++ Decimal.digitText n ++ "`"
  | .signed n => "integer `" ++ (if n < 0 then "-" else "") ++ Decimal.digitText n.natAbs ++ "`"
  | .float x => "floating point `" ++ Decimal.Layout.data.render x ++ "`"
  | .str s => "string " ++ debugQuote s
  | .null => "null"
  | .sequence => "sequence"
  | .map => "map"
  | .unitVariant => "unit variant"
  | .newtypeVariant => "newtype variant"
  | .structVariant => "struct variant"

/-- The wording of what was wanted. -/
def Wanted.describe : Wanted → String
  | .u8 => "u8"
  | .i32 => "i32"
  | .boolean => "a boolean"
  | .string => "a string"
  | .sequence => "a sequence"
  | .map => "a map"
  | .unit => "unit"
  | .record title => title
  | .recordOf title count =>
    title ++ " with " ++ Decimal.digitText count ++
      (if count == 1 then " element" else " elements")
  | .fewerInArray => "fewer elements in array"
  | .fewerInMap => "fewer elements in map"
  | .inSequence count =>
    Decimal.digitText count ++ (if count == 1 then " element in sequence" else " elements in sequence")
  | .stringOrMap => "string or map"
  | .taggedEnum name => "internally tagged enum " ++ name
  | .variantIdentifier => "variant identifier"
  | .newtypeVariant => "newtype variant"
  | .structVariant => "struct variant"
  | .singleKeyMap => "map with a single key"

/-- The cause of a failed read. -/
inductive Fault where
  | text (fault : TextFault)
  | invalidType (found : Found) (wanted : Wanted)
  | invalidValue (found : Found) (wanted : Wanted)
  | invalidLength (length : Nat) (wanted : Wanted)
  | missingField (name : String)
  | duplicateField (name : String)
  | unknownVariant (name : String) (variants : List String)

/-- Names in backquotes: one, two joined by `or`, or a list introduced by `one of`. -/
def oneOf (names : List String) : String :=
  let tick (n : String) := "`" ++ n ++ "`"
  match names with
  | [a] => tick a
  | [a, b] => tick a ++ " or " ++ tick b
  | _ => "one of " ++ ", ".intercalate (names.map tick)

/-- The wording of a cause. -/
def Fault.message : Fault → String
  | .text s => s.message
  | .invalidType f w => "invalid type: " ++ f.describe ++ ", expected " ++ w.describe
  | .invalidValue f w => "invalid value: " ++ f.describe ++ ", expected " ++ w.describe
  | .invalidLength n w => "invalid length " ++ Decimal.digitText n ++ ", expected " ++ w.describe
  | .missingField name => "missing field `" ++ name ++ "`"
  | .duplicateField name => "duplicate field `" ++ name ++ "`"
  | .unknownVariant name [] => "unknown variant `" ++ name ++ "`, there are no variants"
  | .unknownVariant name variants => "unknown variant `" ++ name ++ "`, expected " ++ oneOf variants

/-- A place in a text: lines counted from one, columns (bytes since the line began) from zero. -/
structure Position where
  line : Nat
  column : Nat
deriving DecidableEq, Repr

/-- A failed read: its cause, and where in the text it was found when a text was read. -/
structure JsonError where
  fault : Fault
  position : Option Position := none

namespace JsonError

/-- The error of a cause found without a text. -/
def ofFault (fault : Fault) : JsonError := { fault }

/-- The wording of the error, with its position when it has one. -/
def message (e : JsonError) : String :=
  match e.position with
  | none => e.fault.message
  | some p => e.fault.message ++ " at line " ++ Decimal.digitText p.line ++ " column " ++
      Decimal.digitText p.column

end JsonError

/-- What kind of value a data value is, for a reader that wanted another. -/
def Json.found : Json → Found
  | .null => .null
  | .bool b => .bool b
  | .number (.natural n) => .unsigned n
  | .number (.negative n) => .signed n
  | .number (.float x) => .float x
  | .string s => .str s
  | .array _ => .sequence
  | .object _ => .map

end ZoneBridge
