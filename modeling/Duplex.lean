import Duplex.Text.Utf8
import Duplex.Text.Decimal
import Duplex.Text.Split
import Duplex.Text.Blank
import Duplex.Text.Quoted
import Duplex.Wire.Base64
import Duplex.Wire.Batch
import Duplex.Json.Range
import Duplex.Json.Reader
import Duplex.Json.Writer
import Duplex.Handshake
import Duplex.Settings.Layers
import Duplex.Server.Application
import Duplex.Server.Exchanges
import Duplex.Server.Shutdown
import Duplex.Server.Websockets
import Duplex.Main
import Duplex.Proofs.Json.Written
import Duplex.Proofs.Json.Reading
import Duplex.Proofs.Json.Fields
import Duplex.Proofs.Json.Merged
import Duplex.Proofs.Json.Paths
import Duplex.Proofs.Settings.Environment
import Duplex.Proofs.Settings.Overlay
import Duplex.Proofs.Settings.Layered
import Duplex.Proofs.Settings.Validity
import Duplex.Proofs.Wire.Base64
import Duplex.Proofs.Wire.Frame
import Duplex.Proofs.Wire.Batch
import Duplex.Proofs.Wire.Strict
import Duplex.Proofs.Wire.Appended
import Duplex.Proofs.Wire.Canonical
import Duplex.Proofs.Session.Change
import Duplex.Proofs.Transport.Takes
import Duplex.Proofs.Session.Flush
import Duplex.Proofs.Session.Valid
import Duplex.Proofs.Session.Outbound
import Duplex.Proofs.Session.Ledger
import Duplex.Proofs.Session.ExactlyOnce
import Duplex.Proofs.Session.Carrying
import Duplex.Proofs.Session.Lifetime
import Duplex.Proofs.Session.Polled
import Duplex.Proofs.Session.Waking
import Duplex.Proofs.Session.Suspended
import Duplex.Proofs.Session.Encodable
import Duplex.Proofs.Session.Shadow
import Duplex.Proofs.Session.Aside
import Duplex.Proofs.Session.Joining
import Duplex.Proofs.Session.Scene
import Duplex.Proofs.Session.Inbox
import Duplex.Proofs.Session.Ending
import Duplex.Proofs.Session.Heartbeat
import Duplex.Proofs.Session.Vigil
import Duplex.Proofs.Session.Deadline
import Duplex.Proofs.Session.Commands
import Duplex.Proofs.Session.Hangup
import Duplex.Proofs.Session.Attended
import Duplex.Proofs.Session.Rivals
import Duplex.Proofs.Session.Tally
import Duplex.Proofs.Session.Overtime
import Duplex.Proofs.Session.Probing
import Duplex.Proofs.Session.Budget
import Duplex.Proofs.Session.Ponging
import Duplex.Proofs.Server.Sessions
import Duplex.Proofs.Server.Opening
import Duplex.Proofs.Server.Preservation
import Duplex.Proofs.Server.Run
import Duplex.Proofs.Server.Stopping
import Duplex.Proofs.Server.Frames
import Duplex.Proofs.Server.Serving
import Duplex.Proofs.Server.Rejections
import Duplex.Proofs.Server.Balance
import Duplex.Proofs.Server.Service
import Duplex.Proofs.Server.Registry
import Duplex.Proofs.Server.Shutdown
import Duplex.Proofs.Server.Counting
import Duplex.Proofs.Session.Echoing
import Duplex.Proofs.Bus.Looking
import Duplex.Proofs.Bus.Broadcast
import Duplex.Proofs.Bus.Delivery
import Duplex.Proofs.Transport.Writable
import Duplex.Proofs.Server.Routing
import Duplex.Proofs.Session.Partial
