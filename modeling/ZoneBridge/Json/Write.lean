import ZoneBridge.Json.Value
import ZoneBridge.Decimal.Layout

/-!
# Writing data values

The compact text of a value: no blanks, fields in the order the object keeps them, floats in
the data layout with the fewest digits that read back, and a float that is not finite written as
`null`. In a string, a quote, a backslash and the control characters below U+0020 are escaped:
`\b`, `\f`, `\n`, `\r` and `\t` by letter, the others as `\u00xx` with lowercase hex digits.
Everything else, non-ASCII text included, stands as it is.
-/

namespace ZoneBridge

/-- A hex digit, lowercase. -/
def hexDigit (n : Nat) : Char :=
  if n < 10 then Char.ofNat ('0'.toNat + n) else Char.ofNat ('a'.toNat + n - 10)

/-- The escaped form of one character inside a quoted string. -/
def escapeChar (c : Char) : List Char :=
  if c == '"' then ['\\', '"']
  else if c == '\\' then ['\\', '\\']
  else if c == '\n' then ['\\', 'n']
  else if c == '\r' then ['\\', 'r']
  else if c == '\t' then ['\\', 't']
  else if c.toNat == 8 then ['\\', 'b']
  else if c.toNat == 12 then ['\\', 'f']
  else if c.toNat < 0x20 then ['\\', 'u', '0', '0', hexDigit (c.toNat / 16), hexDigit (c.toNat % 16)]
  else [c]

/-- A string as a quoted, escaped string value. -/
def quote (s : String) : String :=
  String.ofList ('"' :: (s.toList.flatMap escapeChar ++ ['"']))

namespace JsonNumber

/-- The text of a number. -/
def write : JsonNumber → String
  | .natural n => Decimal.digitText n
  | .negative n => "-" ++ Decimal.digitText n.natAbs
  | .float x => if x.isFinite then Decimal.Layout.data.render x else "null"

end JsonNumber

namespace Json

mutual
/-- The compact text of a value. -/
def write : Json → String
  | .null => "null"
  | .bool b => if b then "true" else "false"
  | .number n => n.write
  | .string s => quote s
  | .array items => "[" ++ writeItems items ++ "]"
  | .object fields => "\x7b" ++ writeFields fields ++ "\x7d"

/-- The items of an array, separated by commas. -/
def writeItems : List Json → String
  | [] => ""
  | [x] => write x
  | x :: rest => write x ++ "," ++ writeItems rest

/-- The fields of an object, separated by commas. -/
def writeFields : List (String × Json) → String
  | [] => ""
  | [(k, v)] => quote k ++ ":" ++ write v
  | (k, v) :: rest => quote k ++ ":" ++ write v ++ "," ++ writeFields rest
end

end Json

end ZoneBridge
