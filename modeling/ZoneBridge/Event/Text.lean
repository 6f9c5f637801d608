import ZoneBridge.Event
import ZoneBridge.Json.Typed

/-!
# Push messages from text

A push message written as text is an object with the fields `message_type` (the name of a
message type) and `payload` (any value).
-/

namespace ZoneBridge

namespace Notification

/-- How a push message is read from a text. -/
def textRecord : TextRecord Notification where
  title := "struct Notification"
  blank := ⟨.zoneStatus, .null⟩
  fields := [
    { name := "message_type"
      put := fun src d n => do
        pure { n with messageType := MessageType.ofIndex (← Reading.typedUnitVariant src MessageType.wireNames d) } },
    { name := "payload"
      put := fun src d n => fun i =>
        ((fun v => { n with payload := v }) <$> Reading.value src d (2 * (src.size - i) + 2)) i }]

/-- Reads a push message from a text. -/
def parse (text : String) : Except JsonError Notification :=
  let src := text.toUTF8
  Reading.run src (textRecord.read src 0)

end Notification

end ZoneBridge
