import Courier.Settings
import Courier.Settings.Scalar
/-!
Reading settings from a JSON object.  Unknown fields are ignored; a field that is present but has the
wrong type or is out of range makes the whole object unusable.  The object is `DispatchSettings`, as it
is read from its fields.
-/
namespace Courier.Settings

section
variable (k : Scalars)

/-- A natural number below `bound`. -/
def natBelow? (bound : Nat) (j : Json) : Option Nat := (k.natural j).filter fun n => n < bound

def word16? (j : Json) : Option UInt16 := (natBelow? k Word.size16 j).map UInt16.ofNat

def word32? (j : Json) : Option UInt32 := (natBelow? k Word.size32 j).map UInt32.ofNat

def word64? (j : Json) : Option UInt64 := (natBelow? k Word.size64 j).map UInt64.ofNat

def signed32? (j : Json) : Option Int32 :=
  ((k.integer j).filter Word.isSigned32).map Int32.ofInt

def texts? : Json → Option (List String)
  | .arr items => items.mapM k.text
  | _ => none

/-- Null stands for a missing value. -/
def orNull? {α : Type} (read : Json → Option α) : Json → Option (Option α)
  | .null => some none
  | j => (read j).map some

/-- A field with a default: missing is fine, malformed is not. -/
def fieldOr? {α : Type} (fields : Fields) (name : String) (read : Json → Option α)
    (default : α) : Option α :=
  match Table.get? name fields with
  | none => some default
  | some j => read j

def override? : Json → Option Override
  | .obj fields => do
    let host ← fieldOr? fields "host" (orNull? k.text) none
    let port ← fieldOr? fields "port" (orNull? (word16? k)) none
    let scheme ← fieldOr? fields "scheme" (orNull? k.text) none
    let offset ← fieldOr? fields "tunnel_port_offset" (orNull? (signed32? k)) none
    return ⟨host, port, scheme, offset⟩
  | .arr [h, p, s, o] => do
    let host ← orNull? k.text h
    let port ← orNull? (word16? k) p
    let scheme ← orNull? k.text s
    let offset ← orNull? (signed32? k) o
    return ⟨host, port, scheme, offset⟩
  | _ => none

def overrides? : Json → Option (Table Override)
  | .obj fields => fields.mapM fun e => (override? k e.2).map fun o => (e.1, o)
  | _ => none

def ofFields? (f : Fields) : Option Settings := do
  let d : Settings := {}
  let serviceName ← fieldOr? f "service_name" k.text d.serviceName
  let port ← fieldOr? f "port" (word16? k) d.port
  let tokenSecret ← fieldOr? f "token_secret" k.text d.tokenSecret
  let requestTimeoutSecs ← fieldOr? f "request_timeout_secs" (word64? k) d.requestTimeoutSecs
  let connectTimeoutSecs ← fieldOr? f "connect_timeout_secs" (word64? k) d.connectTimeoutSecs
  let maxConnections ← fieldOr? f "max_connections" (word64? k) d.maxConnections
  let maxKeepaliveConnections ←
    fieldOr? f "max_keepalive_connections" (word64? k) d.maxKeepaliveConnections
  let concurrencyLimit ← fieldOr? f "concurrency_limit" (word64? k) d.concurrencyLimit
  let defaultRetryCount ← fieldOr? f "default_retry_count" (word32? k) d.defaultRetryCount
  let maxRetryCount ← fieldOr? f "max_retry_count" (word32? k) d.maxRetryCount
  let tunnelPortOffset ← fieldOr? f "tunnel_port_offset" (signed32? k) d.tunnelPortOffset
  let healthTtlSecs ← fieldOr? f "health_ttl_secs" (word64? k) d.healthTtlSecs
  let healthProbeTimeoutSecs ←
    fieldOr? f "health_probe_timeout_secs" (word64? k) d.healthProbeTimeoutSecs
  let resolveTtlSecs ← fieldOr? f "resolve_ttl_secs" (word64? k) d.resolveTtlSecs
  let maxMessageBytes ← fieldOr? f "max_message_bytes" (word64? k) d.maxMessageBytes
  let hostTemplate ← fieldOr? f "host_template" k.text d.hostTemplate
  let defaultScheme ← fieldOr? f "default_scheme" k.text d.defaultScheme
  let apiVersion ← fieldOr? f "api_version" k.text d.apiVersion
  let connections ← fieldOr? f "connections" (texts? k) d.connections
  let requiredConnections ← fieldOr? f "required_connections" (texts? k) d.requiredConnections
  let services ← fieldOr? f "services" (overrides? k) d.services
  return { serviceName, port, tokenSecret, requestTimeoutSecs, connectTimeoutSecs, maxConnections,
           maxKeepaliveConnections, concurrencyLimit, defaultRetryCount, maxRetryCount,
           tunnelPortOffset, healthTtlSecs, healthProbeTimeoutSecs, resolveTtlSecs,
           maxMessageBytes, hostTemplate, defaultScheme, apiVersion, connections,
           requiredConnections, services }

end

def ofJson? : Json → Option Settings
  | .obj fields => ofFields? .strict fields
  | _ => none

end Courier.Settings
