import ZoneBridge.Config
import ZoneBridge.Json.Typed
import ZoneBridge.Files

/-!
# Configurations from text

A configuration is written as an object with the fields `port` and `type` (the model's name),
and, each with a default, `zones` and `sources` (maps from ids to names, keys in quotes),
`volume_step`, `entry_id` and `options` (with optional `port`, `zones` and `sources`). Reading
a configuration from a text checks it against its model as well.
-/

namespace ZoneBridge

namespace Config

/-- How the overrides of a configuration are read. -/
def optionsRecord : TextRecord Options where
  title := "struct ConfigOptions"
  blank := {}
  fields := [
    { name := "port", optional := true
      put := fun src _ o => do pure { o with port := ← Reading.typedOption src (Reading.typedString src) } },
    { name := "zones", optional := true
      put := fun src d o => do
        pure { o with zones := (← Reading.typedOption src (Reading.typedIdMap src d)).map IdMap.ofPairs } },
    { name := "sources", optional := true
      put := fun src d o => do
        pure { o with sources := (← Reading.typedOption src (Reading.typedIdMap src d)).map IdMap.ofPairs } }]

/-- How the overrides of a configuration are read from a data value. -/
def optionsDecoder : Record Options where
  title := "struct ConfigOptions"
  blank := {}
  fields := [
    { name := "port", optional := true
      put := fun v o => do pure { o with port := ← Decoder.option Decoder.string v } },
    { name := "zones", optional := true
      put := fun v o => do
        pure { o with zones := (← Decoder.option Decoder.idMap v).map IdMap.ofPairs } },
    { name := "sources", optional := true
      put := fun v o => do
        pure { o with sources := (← Decoder.option Decoder.idMap v).map IdMap.ofPairs } }]

/-- How a configuration is read. -/
def textRecord : TextRecord Config where
  title := "struct AmplifierConfig"
  blank := { port := "", model := "" }
  fields := [
    { name := "port", put := fun src _ c => do pure { c with port := ← Reading.typedString src } },
    { name := "type", put := fun src _ c => do pure { c with model := ← Reading.typedString src } },
    { name := "zones", optional := true
      put := fun src d c => do pure { c with zones := IdMap.ofPairs (← Reading.typedIdMap src d) } },
    { name := "sources", optional := true
      put := fun src d c => do pure { c with sources := IdMap.ofPairs (← Reading.typedIdMap src d) } },
    { name := "volume_step", optional := true
      put := fun src _ c => do pure { c with volumeStep := ← Reading.typedI32 src } },
    { name := "entry_id", optional := true
      put := fun src _ c => do pure { c with entryId := some (← Reading.typedString src) } },
    { name := "options", optional := true
      put := fun src d c => do pure { c with options := ← optionsRecord.read src d } }]

/-- Reads a configuration from a text, without checking it. -/
def parse (text : String) : Except JsonError Config :=
  let src := text.toUTF8
  Reading.run src (textRecord.read src 0)

/-- Reads a configuration from a text and checks it against its model. -/
def ofText (text : String) : Outcome Config := do
  let c ← (parse text).mapError .json
  c.validate
  pure c

/-- Reads a configuration from the bytes of a file: they must be UTF-8. -/
def ofBytes (bytes : ByteArray) : Outcome Config :=
  match String.fromUTF8? bytes with
  | some text => ofText text
  | none => .error (.io .invalidUtf8)

/-- Whether a text, read as a plain data value, is an object with the key `entry_id`. A text the
configuration reader takes may still fail as a plain value, because the reader passes over the
values of unknown keys without working them out: a number out of range or nesting beyond the
depth limit there goes unnoticed. A configuration given as an array names no key at all. -/
def namesEntryId (text : String) : Bool :=
  match Json.parse text with
  | .ok v => (v.get? "entry_id").isSome
  | .error _ => false

/-- Reads a configuration from a text as `ofText` does, keeping its entry id only when the text
names it as a key (`namesEntryId`): a configuration without one gets an entry id made up at
random, which is not shown. -/
def ofTextShown (text : String) : Outcome Config :=
  (ofText text).map fun c => { c with entryId := if namesEntryId text then c.entryId else none }

/-- Reads a configuration from the bytes of a file as `ofBytes` does. The entry id of a
configuration read from a file is not shown, whether the file names one or not. -/
def ofBytesShown (bytes : ByteArray) : Outcome Config :=
  (ofBytes bytes).map fun c => { c with entryId := none }

end Config

namespace Files

/-- Reads the configuration file at a path, showing no entry id as `Config.ofBytesShown` does. A
path holding a NUL byte is refused before any file is looked up. -/
def readConfig (fs : Files) (path : String) : Outcome Config :=
  if path.contains (Char.ofNat 0) then .error (.io .nulInName)
  else
    match fs.entry? path with
    | .ok (.file bytes) => Config.ofBytesShown bytes
    | .ok .directory => .error (.io .isDirectory)
    | .error f => .error (.io f)

end Files

end ZoneBridge
