import ZoneBridge.Decimal.Binary

/-!
# Data values

The messages, requests and configurations this library exchanges are data values in the
usual format of objects, arrays, strings, numbers, booleans and null. A number is kept in one
of three kinds, because readers of typed values tell them apart: a non-negative integer below
`2 ^ 64`, a negative integer not below `-2 ^ 63`, and a float for everything else. An object
keeps its fields sorted by key, each key once; `Json.insertField` keeps it so, and a later value for
a key replaces the earlier one.
-/

namespace ZoneBridge

/-- A number of a data value. -/
inductive JsonNumber where
  /-- An integer in `[0, 2 ^ 64)`. -/
  | natural (n : Nat)
  /-- An integer in `[-2 ^ 63, 0)`. -/
  | negative (n : Int)
  /-- Any other number. -/
  | float (x : Float)
deriving Inhabited

/-- A data value. -/
inductive Json where
  | null
  | bool (b : Bool)
  | number (n : JsonNumber)
  | string (s : String)
  | array (items : List Json)
  /-- An object: its fields sorted by key, each key once. -/
  | object (fields : List (String × Json))
deriving Inhabited

namespace Json

/-- The number of an integer: natural when it is not negative. -/
def ofInt (n : Int) : Json :=
  if 0 ≤ n then .number (.natural n.toNat) else .number (.negative n)

/-- The number of a natural number. -/
def ofNat (n : Nat) : Json := .number (.natural n)

/-- The number of a float. -/
def ofFloat (x : Float) : Json := .number (.float x)

/-- An optional value, `null` when absent. -/
def ofOption {α : Type} (f : α → Json) : Option α → Json
  | some a => f a
  | none => .null

/-- Puts a field into sorted fields, replacing the value of an equal key. -/
def insertField (key : String) (value : Json) : List (String × Json) → List (String × Json)
  | [] => [(key, value)]
  | (k, v) :: rest =>
    if key < k then (key, value) :: (k, v) :: rest
    else if key == k then (key, value) :: rest
    else (k, v) :: insertField key value rest

/-- An object of the given fields; a later field replaces an earlier one of the same key. -/
def obj (fields : List (String × Json)) : Json :=
  .object (fields.foldl (fun acc (k, v) => insertField k v acc) [])

/-- The value of a field of an object. -/
def get? (key : String) : Json → Option Json
  | .object fields => fields.lookup key
  | _ => none

/-- Sets a field of an object; other values are left as they are. -/
def set (key : String) (value : Json) : Json → Json
  | .object fields => .object (insertField key value fields)
  | other => other

/-- The text of a string value. -/
def getStr? : Json → Option String
  | .string s => some s
  | _ => none

/-- The truth value of a boolean value. -/
def getBool? : Json → Option Bool
  | .bool b => some b
  | _ => none

/-- The integer of an integer value. -/
def getInt? : Json → Option Int
  | .number (.natural n) => some n
  | .number (.negative n) => some n
  | _ => none

/-- The items of an array value. -/
def getArr? : Json → Option (List Json)
  | .array items => some items
  | _ => none

/-- The fields of an object value. -/
def getObj? : Json → Option (List (String × Json))
  | .object fields => some fields
  | _ => none

/-- The number of a value as a float: integers convert to the nearest float. -/
def getFloat? : Json → Option Float
  | .number (.natural n) => some (Decimal.nearest n 1)
  | .number (.negative n) => some (-Decimal.nearest n.natAbs 1)
  | .number (.float x) => some x
  | _ => none

example : (obj [("b", .null), ("a", .bool true), ("b", ofNat 1)]).get? "b" |>.isSome := by decide

end Json

end ZoneBridge
