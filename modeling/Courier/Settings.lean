import Courier.Duration
import Courier.Failure
/-!
Settings shared by every client of a service and by its tunnel server.  Every field has a default, so an
empty object is a full set of settings; a field that is present has to have the right type and range.
These are `DispatchSettings` with its defaults, `validate`, `allowed_services`, the spans of time and
`dispatch_permits`, and the `tunnel_port` of a relay.
-/
namespace Courier

/-- What a single service has different from the rest. -/
structure Override where
  host : Option String
  port : Option UInt16
  scheme : Option String
  tunnelPortOffset : Option Int32
  deriving DecidableEq, Repr, Inhabited

structure Settings where
  serviceName : String := "service"
  port : UInt16 := 8080
  tokenSecret : String := "insecure-development-secret"
  requestTimeoutSecs : UInt64 := 10
  connectTimeoutSecs : UInt64 := 5
  maxConnections : UInt64 := 100
  maxKeepaliveConnections : UInt64 := 20
  concurrencyLimit : UInt64 := 20
  defaultRetryCount : UInt32 := 2
  maxRetryCount : UInt32 := 4
  tunnelPortOffset : Int32 := 1
  healthTtlSecs : UInt64 := 60
  healthProbeTimeoutSecs : UInt64 := 10
  resolveTtlSecs : UInt64 := 60
  maxMessageBytes : UInt64 := 67108864
  hostTemplate : String := "\x7bname\x7d"
  defaultScheme : String := "http"
  apiVersion : String := "v1"
  connections : List String := []
  requiredConnections : List String := []
  services : Table Override := []
  deriving Repr, Inhabited

namespace Settings

/-- A port that comes out of a sum, if there is such a port. -/
def port? (n : Int) : Option UInt16 :=
  if 0 ≤ n ∧ n < 65536 then some (UInt16.ofNat n.toNat) else none

/-- What has to hold before settings are used. -/
def validate (s : Settings) : Except Failure Unit :=
  if s.concurrencyLimit == 0 || s.maxConnections == 0 then
    .error (.configuration (.message "concurrency_limit and max_connections must be positive"))
  else if s.maxMessageBytes == 0 then
    .error (.configuration (.message "max_message_bytes must be positive"))
  else .ok ()

/-- Names that may be called: declared and required ones, trimmed, without empty ones. -/
def allowedServices (s : Settings) : List String :=
  Table.nameSet (((s.connections ++ s.requiredConnections).map Text.trim).filter (· != ""))

def requestTimeout (s : Settings) : Duration := .ofSeconds s.requestTimeoutSecs.toNat

def connectTimeout (s : Settings) : Duration := .ofSeconds s.connectTimeoutSecs.toNat

def healthTtl (s : Settings) : Duration := .ofSeconds s.healthTtlSecs.toNat

def healthProbeTimeout (s : Settings) : Duration := .ofSeconds s.healthProbeTimeoutSecs.toNat

def resolveTtl (s : Settings) : Duration := .ofSeconds s.resolveTtlSecs.toNat

/-- How many HTTP calls may be under way at once. -/
def dispatchPermits (s : Settings) : UInt64 := min s.concurrencyLimit s.maxConnections

/-- The tunnel's listening port beside an HTTP port; an ephemeral port gets an ephemeral one. -/
def tunnelPort (s : Settings) (httpPort : UInt16) : Except Failure UInt16 :=
  if s.port == 0 then .ok 0
  else
    let n := (httpPort.toNat : Int) + s.tunnelPortOffset.toInt
    match port? n with
    | some p => .ok p
    | none => .error (.configuration (.message ("tunnel port " ++ toString n ++ " is out of range")))

end Settings
end Courier
