import ZoneBridge.Link
import ZoneBridge.Config

/-!
# Discovering zones and sources

A new configuration is seeded with the names stored in the amplifier: every zone of the model,
then every source, is asked for its configuration, and the enabled ones are kept with their
names trimmed of blanks. A zone or source that does not answer in time is passed over; any other
failure ends the scan.

The amplifier is given as a function `answer` on the link, run after each query is sent: it may
push messages in or close the link.
-/

namespace ZoneBridge

/-- The zones and sources an amplifier reports enabled, with their names. -/
structure Discovered where
  zones : IdMap := []
  sources : IdMap := []

namespace Discovery

variable {σ : Type}

/-- Sends a query, lets the amplifier answer, and gives the event that answered the query. -/
def ask (answer : Link σ → Link σ) (l : Link σ) (q : Query) : Link σ × Outcome DeviceEvent :=
  match l.ask q with
  | .error e => (l, .error e)
  | .ok (l, t) =>
    let l := (answer l).expire
    (l, (l.outcome t).getD (.error .timeout))

/-- The name of an enabled zone or source in a configuration event of the expected type. -/
def enabledName (expected : MessageType) : DeviceEvent → Outcome (Option String)
  | .zoneConfiguration c =>
    if expected == .zoneConfiguration then pure (if c.enabled then some (Text.trim c.name) else none)
    else .error (.unexpectedEvent (some expected) .zoneConfiguration)
  | .sourceConfiguration c =>
    if expected == .sourceConfiguration then pure (if c.enabled then some (Text.trim c.name) else none)
    else .error (.unexpectedEvent (some expected) .sourceConfiguration)
  | e => .error (.unexpectedEvent (some expected) e.messageType)

/-- Asks each id for its configuration in turn, keeping the enabled ones. -/
def collect (answer : Link σ → Link σ) (m : MessageType) :
    Link σ → IdMap → List Nat → Link σ × Outcome IdMap
  | l, found, [] => (l, .ok found)
  | l, found, id :: rest =>
    let (l, r) := ask answer l ⟨m, id.toUInt8⟩
    match r >>= enabledName m with
    | .ok (some name) => collect answer m l (IdMap.insert id.toUInt8 name found) rest
    | .ok none => collect answer m l found rest
    | .error .timeout => collect answer m l found rest
    | .error e => (l, .error e)

/-- Scans the zones and sources of a model. -/
def scan (model : ModelSpec) (answer : Link σ → Link σ) (l : Link σ) : Link σ × Outcome Discovered :=
  let (l, zones) := collect answer .zoneConfiguration l [] ((List.range model.zones).map (· + 1))
  match zones with
  | .error e => (l, .error e)
  | .ok zones =>
    let (l, sources) :=
      collect answer .sourceConfiguration l [] ((List.range model.sources).map (· + 1))
    (l, (fun sources => { zones, sources }) <$> sources)

end Discovery

end ZoneBridge
