import ZoneBridge.Error

/-!
# Replies of a simulation

What a simulated run reports for a request or a step: a value, a failure of the bridge (with
fields that tell more, such as the requests sent before it), or a refusal of a request that does
not make sense, such as one naming an entity that does not exist.
-/

namespace ZoneBridge

/-- What a request or a step of a simulated run gives. -/
inductive Reply where
  | ok (value : Json)
  | failed (e : BridgeError) (extra : List (String × Json))
  | refused (why : String)

namespace Reply

/-- A failure with nothing more to tell. -/
def fail (e : BridgeError) : Reply := .failed e []

/-- The reply of an outcome, its value written by `f`. -/
def ofOutcome {α : Type} (f : α → Json) : Outcome α → Reply
  | .ok a => .ok (f a)
  | .error e => .fail e

/-- The reply of an outcome of no value: null on success. -/
def ofUnit : Outcome Unit → Reply := ofOutcome fun _ => .null

/-- A failure or refusal as data. -/
def failureJson (e : BridgeError) (extra : List (String × Json)) : Json :=
  .obj ([("error", .string e.kind), ("message", .string e.message)] ++ extra)

/-- A refusal as data. -/
def refusalJson (why : String) : Json :=
  .obj [("error", .string "bad_input"), ("message", .string why)]

/-- The reply as the answer to a request: a value under `ok`, or the failure. -/
def envelope : Reply → Json
  | .ok v => .obj [("ok", v)]
  | .failed e extra => failureJson e extra
  | .refused why => refusalJson why

/-- The reply as the result of a step: the value itself, or the failure. -/
def result : Reply → Json
  | .ok v => v
  | .failed e extra => failureJson e extra
  | .refused why => refusalJson why

end Reply

end ZoneBridge
