import ZoneBridge.Balance
import ZoneBridge.Binding
import ZoneBridge.Bridge
import ZoneBridge.Broadcast
import ZoneBridge.Config
import ZoneBridge.Config.Text
import ZoneBridge.Convert
import ZoneBridge.Decimal.Binary
import ZoneBridge.Decimal.Layout
import ZoneBridge.Decimal.Read
import ZoneBridge.Decimal.Shortest
import ZoneBridge.Discovery
import ZoneBridge.Entity
import ZoneBridge.Entity.Dial
import ZoneBridge.Entity.Id
import ZoneBridge.Entity.Loudness
import ZoneBridge.Entity.Player
import ZoneBridge.Error
import ZoneBridge.Event
import ZoneBridge.Event.Text
import ZoneBridge.Files
import ZoneBridge.Host
import ZoneBridge.Hub
import ZoneBridge.Json.Decode
import ZoneBridge.Json.Error
import ZoneBridge.Json.Read
import ZoneBridge.Json.Typed
import ZoneBridge.Json.Value
import ZoneBridge.Json.Write
import ZoneBridge.Link
import ZoneBridge.Model
import ZoneBridge.Proofs.Delivery
import ZoneBridge.Proofs.FanOut
import ZoneBridge.Proofs.Hub
import ZoneBridge.Proofs.Lifecycle
import ZoneBridge.Proofs.Queries
import ZoneBridge.Request
import ZoneBridge.Scale
import ZoneBridge.Sim.Amplifier
import ZoneBridge.Sim.HubTrace
import ZoneBridge.Sim.Recorder
import ZoneBridge.Sim.Reply
import ZoneBridge.Sim.Scan
import ZoneBridge.Sim.Session
import ZoneBridge.Text.Blank
import ZoneBridge.Text.Extend
import ZoneBridge.Text.Printable
import ZoneBridge.Proofs.FloatSign
import ZoneBridge.Proofs.Commands
import ZoneBridge.Proofs.EventCodec
import ZoneBridge.Proofs.Sessions
import ZoneBridge.Proofs.NearestBinary64
import ZoneBridge.Proofs.UnpackedArith
import ZoneBridge.Proofs.FloatValues
import ZoneBridge.Proofs.RoundTrips
import ZoneBridge.Proofs.ZonePlayer
import ZoneBridge.Proofs.SourceNames
import ZoneBridge.Proofs.CommandFrames
import ZoneBridge.Proofs.Construction
import ZoneBridge.Proofs.FloatOrder
import ZoneBridge.Proofs.ConversionOrder
import ZoneBridge.Proofs.HubHistory
import ZoneBridge.Proofs.ExactTone
import ZoneBridge.Proofs.Discovery
import ZoneBridge.Proofs.RequestCodec
import ZoneBridge.Proofs.PermittedSources
