import Courier.Access
import Courier.Base64
import Courier.Client
import Courier.Client.Surroundings
import Courier.Context
import Courier.Digest.Sha256
import Courier.Document.Ini
import Courier.Document.Lexical
import Courier.Document.Toml
import Courier.Document.Yaml
import Courier.Double
import Courier.Double.Decimal
import Courier.Double.Shortest
import Courier.Duration
import Courier.Endpoint
import Courier.Failure
import Courier.Fault
import Courier.Form
import Courier.Health.Board
import Courier.Health.Cache
import Courier.Health.Gate
import Courier.Health.Status
import Courier.Http.Date
import Courier.Http.Headers
import Courier.Http.MediaType
import Courier.Http.Response
import Courier.Http.Status
import Courier.Http.Uri
import Courier.Http.Url
import Courier.Inbound
import Courier.Json
import Courier.Json.Field
import Courier.Json.Lexeme
import Courier.Json.Parser
import Courier.Json.Printer
import Courier.Metrics
import Courier.Multipart
import Courier.Multipart.Disposition
import Courier.Multipart.Reader
import Courier.Outbound
import Courier.Outbound.Call
import Courier.Registry
import Courier.Registry.Shared
import Courier.Relay
import Courier.Reply
import Courier.Report
import Courier.Report.Reader
import Courier.Report.Tagged
import Courier.Request
import Courier.Resolver
import Courier.Retry
import Courier.Rpc.Code
import Courier.Rpc.Deadline
import Courier.Rpc.Status
import Courier.Scope
import Courier.Scope.Schedule
import Courier.Server
import Courier.Service
import Courier.Service.Layers
import Courier.Service.Route
import Courier.Settings
import Courier.Settings.Decode
import Courier.Settings.Dotenv
import Courier.Settings.Load
import Courier.Settings.Scalar
import Courier.Settings.Tree
import Courier.Settings.Variables
import Courier.Struct
import Courier.Table
import Courier.Text
import Courier.Text.Charset
import Courier.Text.Quoted
import Courier.Text.Visible
import Courier.Token
import Courier.Trace
import Courier.Tracker
import Courier.Tunnel.Body
import Courier.Tunnel.Exchange
import Courier.Tunnel.Execution
import Courier.Tunnel.Intake
import Courier.Tunnel.Message
import Courier.Wire.Item
import Courier.Wire.Message
import Courier.Wire.Struct
import Courier.Wire.Varint
import Courier.Word
import Courier.Proofs.Agreement
import Courier.Proofs.Bodies
import Courier.Proofs.Client.Closing
import Courier.Proofs.Client.Endpoints
import Courier.Proofs.Client.Selection
import Courier.Proofs.Client.Settling
import Courier.Proofs.Client.SingleRun
import Courier.Proofs.Double.Value
import Courier.Proofs.Form
import Courier.Proofs.Forwarding
import Courier.Proofs.Health.SingleFlight
import Courier.Proofs.Http.MediaType
import Courier.Proofs.Http.Uri
import Courier.Proofs.Json.Places
import Courier.Proofs.Json.Reading
import Courier.Proofs.Multipart.Lines
import Courier.Proofs.Multipart.Part
import Courier.Proofs.Multipart.Splitting
import Courier.Proofs.Outbound.Texts
import Courier.Proofs.Provenance
import Courier.Proofs.Query
import Courier.Proofs.Registry.Sharing
import Courier.Proofs.Relaying
import Courier.Proofs.Replay
import Courier.Proofs.RequestId
import Courier.Proofs.Resolver.Generations
import Courier.Proofs.Retry
import Courier.Proofs.Rpc.Deadline
import Courier.Proofs.Service.Logging
import Courier.Proofs.Struct.Stability
import Courier.Proofs.Text.Bytes
import Courier.Proofs.Token
import Courier.Proofs.Tracker
import Courier.Proofs.Tracker.Guards
import Courier.Proofs.Tunnel.AccessLog
import Courier.Proofs.Tunnel.Deadline
import Courier.Proofs.Tunnel.Verdict
import Courier.Proofs.Uploads
import Courier.Proofs.UserClaims
import Courier.Proofs.Wire.Item
import Courier.Proofs.Wire.Message
import Courier.Proofs.Wire.Struct
import Courier.Proofs.Wire.Varint
import Courier.Proofs.Outbound.Deadline
import Courier.Proofs.Client.Health
import Courier.Proofs.Outbound.Protected
import Courier.Proofs.Readiness
import Courier.Proofs.Client.Limits
import Courier.Proofs.Scope.Isolation
import Courier.Proofs.Listeners
