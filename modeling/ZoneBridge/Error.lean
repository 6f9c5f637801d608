import ZoneBridge.Event
import ZoneBridge.Scale

/-!
# Errors of the bridge

Every failure of the bridge is a `BridgeError`, built from its cause. The text shown to people is
computed in one place, `BridgeError.message`, from the cause's own `message`.

Native values are 32-bit signed integers, and the program checks its arithmetic on them: an
operation whose exact result leaves that range does not wrap but stops the whole program with a
panic (`Overflow`). A panic is carried as the failure `BridgeError.panic`, which no part of the
bridge takes in: it ends the request that ran into it.
-/

namespace ZoneBridge

/-- Why a pushed message could not be used. -/
inductive Malformed where
  /-- The payload is not an event of its message type. -/
  | event (f : EventFault)
  /-- A control cannot take its value from a message of this type. -/
  | unreadable (control : String) (messageType : MessageType)
  /-- An entity has no use for a message of this type. -/
  | unusable (owner : String) (messageType : MessageType)

/-- The text of a malformed-message cause. -/
def Malformed.message : Malformed → String
  | .event f => f.message
  | .unreadable c m => c ++ " cannot be read from " ++ m.title
  | .unusable o m => o ++ " cannot use " ++ m.title

/-- Why a configuration was refused. -/
inductive ConfigFault where
  | emptyPort
  /-- The volume step is outside `1..=width`. -/
  | volumeStep (width : Int) (step : Int)
  /-- A configured zone or source id is zero or beyond the model's count. -/
  | outOfRange (kind : EntityKind) (id : UInt8) (model : String) (count : Nat)
  /-- A key of indexed input has no number after its first underscore. -/
  | invalidKey (key : String)

/-- The text of a configuration fault. -/
def ConfigFault.message : ConfigFault → String
  | .emptyPort => "port must not be empty"
  | .volumeStep w n => "volume_step must be within 1..=" ++ intText w ++ ", got " ++ intText n
  | .outOfRange k id model count =>
    k.name ++ " " ++ Decimal.digitText id.toNat ++ " out of range for " ++ model ++ " (1..=" ++
      Decimal.digitText count ++ ")"
  | .invalidKey key => "invalid key: " ++ key

/-- Why a file could not be read. -/
inductive IoFault where
  | notFound
  | isDirectory
  /-- A name in the path stands after a file, as if the file were a directory. -/
  | notDirectory
  /-- The path, or one name in it, is longer than the system takes. -/
  | nameTooLong
  /-- The path holds a NUL byte, which no path of the system can. -/
  | nulInName
  /-- The file's bytes are not UTF-8. -/
  | invalidUtf8

/-- The text of a file fault. -/
def IoFault.message : IoFault → String
  | .notFound => "No such file or directory (os error 2)"
  | .isDirectory => "Is a directory (os error 21)"
  | .notDirectory => "Not a directory (os error 20)"
  | .nameTooLong => "File name too long (os error 36)"
  | .nulInName => "file name contained an unexpected NUL byte"
  | .invalidUtf8 => "stream did not contain valid UTF-8"

/-- Who tells a listener on the refresh channel that it fell behind: the bridge's own receiver,
which counts the lost signals as messages, or the channel itself. -/
inductive LagTeller where
  | receiver
  | channel
deriving DecidableEq, Repr

/-- An operation of native arithmetic whose exact result leaves the 32-bit signed range. -/
inductive Overflow where
  | add
  | sub
  | mul
  | neg
deriving DecidableEq, Repr

/-- The text a panic of native arithmetic reports. -/
def Overflow.message : Overflow → String
  | .add => "attempt to add with overflow"
  | .sub => "attempt to subtract with overflow"
  | .mul => "attempt to multiply with overflow"
  | .neg => "attempt to negate with overflow"

/-- A failure of the bridge. -/
inductive BridgeError where
  | invalidRange (f : RangeFault)
  | malformed (m : Malformed)
  /-- There is no way to the amplifier: the link is closed or the entity was detached. -/
  | connectionUnavailable
  /-- The link closed while a query waited for its answer. -/
  | connectionClosed
  /-- A query was never answered. -/
  | timeout
  | unknownModel (name : String)
  | unknownSource (name : String)
  /-- The amplifier answered with an event of another type than the one asked for; without an
  expected type, an event was refused for its type alone. -/
  | unexpectedEvent (expected : Option MessageType) (got : MessageType)
  | config (f : ConfigFault)
  /-- A listener on the refresh channel fell behind by this many signals, as `teller` tells it. -/
  | lagged (n : Nat) (teller : LagTeller)
  | json (e : JsonError)
  | io (f : IoFault)
  /-- Native arithmetic overflowed: the program stops. -/
  | panic (o : Overflow)

namespace BridgeError

/-- The text of a failure. -/
def message : BridgeError → String
  | .invalidRange f => "Invalid range: " ++ f.message
  | .malformed m => "Malformed message: " ++ m.message
  | .connectionUnavailable => "Connection unavailable"
  | .connectionClosed => "Connection closed"
  | .timeout => "Query timeout"
  | .unknownModel n => "Unknown model: " ++ n
  | .unknownSource n => "Unknown source: " ++ n
  | .unexpectedEvent none got => "Unexpected event: " ++ got.title
  | .unexpectedEvent (some e) got => "Unexpected event: expected " ++ e.title ++ ", got " ++ got.title
  | .config f => "Configuration error: " ++ f.message
  | .lagged n .receiver => "Channel error: Lagged by " ++ Decimal.digitText n ++ " messages"
  | .lagged n .channel => "Channel error: channel lagged by " ++ Decimal.digitText n
  | .json e => "JSON error: " ++ e.message
  | .io f => "I/O error: " ++ f.message
  | .panic o => o.message

/-- The name of the kind of failure. -/
def kind : BridgeError → String
  | .invalidRange _ => "InvalidRange"
  | .malformed _ => "MalformedMessage"
  | .connectionUnavailable => "ConnectionUnavailable"
  | .connectionClosed => "ConnectionClosed"
  | .timeout => "Timeout"
  | .unknownModel _ => "UnknownModel"
  | .unknownSource _ => "UnknownSource"
  | .unexpectedEvent .. => "UnexpectedEvent"
  | .config _ => "Config"
  | .lagged .. => "ChannelError"
  | .json _ => "Json"
  | .io _ => "Io"
  | .panic _ => "panic"

/-- The failure as data: its kind and its text. -/
def toJson (e : BridgeError) : Json := .obj [("error", .string e.kind), ("message", .string e.message)]

end BridgeError

/-- A computation of the bridge that may fail. -/
abbrev Outcome (α : Type) := Except BridgeError α

/-- A conversion's result, its range fault made a failure of the bridge. -/
def Outcome.ofRange {α : Type} (r : Except RangeFault α) : Outcome α := r.mapError .invalidRange

/-- A result or its failure as data. -/
def Outcome.toJson {α : Type} (f : α → Json) : Outcome α → Json
  | .ok a => f a
  | .error e => e.toJson

end ZoneBridge
