import Courier.Access
import Courier.Context
import Courier.Endpoint
import Courier.Health.Gate
import Courier.Json.Field
import Courier.Registry
import Courier.Report.Tagged
import Courier.Request
import Courier.Resolver
import Courier.Tracker
/-!
The JSON forms in which values are shown to whoever watches a service: an object for each kind of
value, with a field for everything that can be asked of it.
-/
namespace Courier.Report

open Json

def nat (n : Nat) : Json := .int n

def option {α : Type} (f : α → Json) : Option α → Json := Json.ofOption f

/-- Text where the bytes are text, else base64. -/
def bytes (b : Bytes) : Json :=
  match Text.ofUtf8? b with
  | some s => .str s
  | none => .obj [("b64", .str (Base64.encode b))]

/-- A body that is a JSON object is shown as one. -/
def body (b : Bytes) : Json :=
  match Json.parse? b with
  | some (.obj f) => .obj [("json", .obj f)]
  | _ => bytes b

def duration (d : Duration) : Json := .arr [nat d.seconds, nat d.subsecond]

def headerValue (v : Bytes) : String :=
  match Http.visible? v with
  | some s => s
  | none => "b64:" ++ Base64.encode v

def pair (p : String × String) : Json := .arr [.str p.1, .str p.2]

def pairLe (a b : String × String) : Bool := if a.1 == b.1 then a.2 ≤ b.2 else a.1 ≤ b.1

/-- Fields in the order of their names, then of their values; `adapt` may reword a value. -/
def headers (adapt : String → String → String) (h : Http.Headers) : Json :=
  let shown := h.map fun e => (e.1, adapt e.1 (headerValue e.2))
  .arr ((shown.mergeSort pairLe).map pair)

def asTheyAre (_ value : String) : String := value

def response (r : Http.Response) : Json :=
  .obj [("body", body r.body), ("headers", headers asTheyAre r.headers), ("status", nat r.status.code)]

def errorBodyFields (b : ErrorBody) : List (String × Json) :=
  [("message", option .str b.message), ("description", option .str b.description),
    ("error_code", .str b.errorCode), ("summary", .str b.summary), ("raw", b.raw)]

def faultKind : Fault → String
  | .unavailable .. => "unavailable"
  | .timeout .. => "timeout"
  | .protocol .. => "protocol"
  | .responded .. => "upstream"
  | .unknown .. => "unknown"

def faultExtra : Fault → Json
  | .unavailable _ reason _ => .str reason.text
  | .timeout _ limit => duration limit
  | .responded _ status b => Json.object (("status", nat status) :: errorBodyFields b)
  | _ => .null

def fault (f : Fault) : Json :=
  Json.object [("kind", .str (faultKind f)), ("extra", faultExtra f), ("display", .str f.text),
    ("service", .str f.service), ("status_code", nat f.status.code),
    ("error_code", .str f.errorCode), ("allows_fallback", .bool f.allowsFallback),
    ("is_transport_failure", .bool f.isTransportFailure), ("body", f.body)]

def reply (r : Reply) : Json :=
  Json.object [("status", nat r.status.code), ("body", r.body), ("transport", .str r.transport.label),
    ("success", .bool r.isSuccess)]

def outcome : Outcome → Json
  | .ok r => .obj [("ok", reply r)]
  | .error f => .obj [("err", fault f)]

def file (f : File) : Json :=
  Json.object [("name", .str f.name), ("content_type", .str f.contentType),
    ("content", bytes f.content)]

def files (t : Table (List File)) : Json :=
  .obj (Table.mapValues (fun l => .arr (l.map file)) t)

def textTable (t : Table String) : Json := .obj (Table.mapValues .str t)

def message (m : Tunnel.Message) : Json :=
  Json.object [("method", .str m.method), ("endpoint", bytes m.endpoint),
    ("headers", textTable m.headers), ("user", option struct m.user),
    ("service", option struct m.service), ("request_id", .str m.requestId),
    ("body", textTable m.body), ("files", files m.files)]

def context (c : Context) : Json :=
  .obj [("caller_service", .obj c.callerService), ("caller_user", .obj c.callerUser),
    ("correlation_id", .str c.correlationId)]

def override (o : Override) : Json :=
  .obj [("host", option .str o.host), ("port", option (fun p => nat p.toNat) o.port),
    ("scheme", option .str o.scheme),
    ("tunnel_port_offset", option (fun n => .int n.toInt) o.tunnelPortOffset)]

def settings (s : Settings) : Json :=
  Json.object [("service_name", .str s.serviceName), ("port", nat s.port.toNat),
    ("token_secret", .str s.tokenSecret), ("request_timeout", duration s.requestTimeout),
    ("connect_timeout", duration s.connectTimeout),
    ("max_connections", nat s.maxConnections.toNat),
    ("max_keepalive_connections", nat s.maxKeepaliveConnections.toNat),
    ("concurrency_limit", nat s.concurrencyLimit.toNat),
    ("default_retry_count", nat s.defaultRetryCount.toNat),
    ("max_retry_count", nat s.maxRetryCount.toNat),
    ("tunnel_port_offset", .int s.tunnelPortOffset.toInt),
    ("health_ttl", duration s.healthTtl),
    ("health_probe_timeout", duration s.healthProbeTimeout),
    ("resolve_ttl", duration s.resolveTtl), ("max_message_bytes", nat s.maxMessageBytes.toNat),
    ("host_template", .str s.hostTemplate), ("default_scheme", .str s.defaultScheme),
    ("api_version", .str s.apiVersion), ("connections", Json.ofStrings s.connections),
    ("required_connections", Json.ofStrings s.requiredConnections),
    ("services", .obj (Table.mapValues override s.services)),
    ("allowed_services", Json.ofStrings s.allowedServices),
    ("dispatch_permits", nat s.dispatchPermits.toNat)]

def endpoint (e : Endpoint) : Json :=
  Json.object [("name", .str e.name), ("scheme", .str e.scheme), ("host", .str e.host),
    ("http_port", nat e.httpPort.toNat), ("tunnel_port", nat e.tunnelPort.toNat),
    ("api_version", .str e.apiVersion), ("http_base", .str e.httpBase),
    ("tunnel_uri", .str e.tunnelAddress)]

def resolution : Resolution → Json
  | .ok e => endpoint e
  | .error e => .obj [("error", .str e.text)]

def descriptor (d : Descriptor) : Json :=
  Json.object [("name", .str d.name), ("scheme", .str d.scheme), ("host_template", .str d.hostTemplate),
    ("base_port", nat d.basePort.toNat), ("tunnel_port_offset", .int d.tunnelPortOffset.toInt),
    ("api_version", .str d.apiVersion), ("host", .str d.host)]

def access (r : AccessRecord) : Json :=
  Json.object [("level", .str r.level.text), ("message", .str AccessRecord.message),
    ("transport", .str r.transport.label), ("method", .str r.method), ("endpoint", .str r.endpoint),
    ("status", nat r.status), ("request_id", .str r.requestId), ("peer", .str r.peerText)]

def metrics (m : Metrics) : Json := .obj (Table.mapValues nat m)

/-- A request with the fault that would keep it from being sent to `service`. -/
def request (service : String) (r : Request) : Json :=
  Json.object [("method", .str r.method), ("endpoint", .str r.path),
    ("query", .arr (r.query.map pair)), ("payload", .obj r.payload), ("files", files r.files),
    ("headers", textTable r.headers), ("propagate_error", .bool r.propagateError),
    ("timeout", option duration r.timeout),
    ("retry_count", option (fun n => nat n.toNat) r.retryCount), ("has_files", .bool r.hasFiles),
    ("validate", match r.validate service with
      | .ok _ => .null
      | .error f => .str f.text)]

/-- A tracker with the calls under way of the peers that are asked about. -/
def tracker (peers : List String) (t : Tracker) : List (String × Json) :=
  [("live", nat t.live), ("connections", nat t.connections),
    ("in_flight", .obj (Table.ofList (peers.map fun p => (p, nat (t.inFlight p)))))]

/-- A client in one line. -/
def clientText (c : Client) : String :=
  "ServiceClient \x7b name: " ++ Text.quoted c.name ++ ", closed: "
    ++ (if c.closed then "true" else "false") ++ ", .. \x7d"

def client (c : Client) : Json :=
  .obj [("closed", .bool c.closed), ("debug", .str (clientText c)),
    ("descriptor", descriptor c.descriptor), ("name", .str c.name)]

def registry (r : Registry) : List (String × Json) :=
  [("clients", .arr (r.instances.map client)), ("empty", .bool (r.size == 0)), ("len", nat r.size)]

end Courier.Report
