import Courier.Duration
import Courier.Http.Response
/-!
The ways in which a call of a service fails, whichever transport carried it.  Each fault has a status,
an error code, a text and a JSON body, so it can be handed on as data or as a response and be read back
at the next hop.  This is `DispatchError` with `status_code`, `error_code`, `allows_fallback`,
`is_transport_failure`, `body` and `into_response`; `ErrorBody` is `UpstreamBody` with `from_json`, and
`Refusal` is `RegistryError`.
-/
namespace Courier

/-- Why a service could not be reached. -/
inductive Unavailability where
  | refused | disconnected | resolution | closed
  deriving DecidableEq, Repr

def Unavailability.text : Unavailability → String
  | .refused => "connection refused"
  | .disconnected => "disconnected"
  | .resolution => "resolution failed"
  | .closed => "client closed"

/-- What is read from the body of a failed response. -/
structure ErrorBody where
  message : Option String
  description : Option String
  errorCode : String
  raw : Json
  deriving Repr

namespace ErrorBody

/-- The code of a failure that names none. -/
def unknownCode : String := "unknown_error"

/-- Text fields are taken as they are, other values as JSON text; null counts as missing. -/
def fieldText (key : String) (raw : Json) : Option String :=
  match raw.field? key with
  | none => none
  | some .null => none
  | some (.str s) => some s
  | some other => some other.text

def ofJson (raw : Json) : ErrorBody where
  message := fieldText "message" raw
  description := fieldText "description" raw
  errorCode := (fieldText "error_code" raw).getD unknownCode
  raw := raw

/-- The description, else the message. -/
def summary (b : ErrorBody) : String := (b.description.or b.message).getD ""

end ErrorBody

inductive Fault where
  | unavailable (service : String) (reason : Unavailability) (detail : String)
  | timeout (service : String) (limit : Duration)
  | protocol (service : String) (detail : String)
  | responded (service : String) (status : Nat) (body : ErrorBody)
  | unknown (service : String) (detail : String)
  deriving Repr

namespace Fault

def service : Fault → String
  | .unavailable s _ _ => s
  | .timeout s _ => s
  | .protocol s _ => s
  | .responded s _ _ => s
  | .unknown s _ => s

def text : Fault → String
  | .unavailable s reason detail => s ++ " is unavailable (" ++ reason.text ++ "): " ++ detail
  | .timeout s limit => s ++ " did not answer within " ++ limit.text
  | .protocol s detail => "protocol error talking to " ++ s ++ ": " ++ detail
  | .responded s status body => s ++ " responded " ++ toString status ++ ": " ++ body.summary
  | .unknown s detail => "unexpected failure calling " ++ s ++ ": " ++ detail

/-- A status out of range counts as an internal error. -/
def status : Fault → Http.Status
  | .unavailable .. => .unavailable
  | .timeout .. => .gatewayTimeout
  | .protocol .. => .badGateway
  | .responded _ n _ => (Http.Status.ofNat? n).getD .internalError
  | .unknown .. => .internalError

def errorCode : Fault → String
  | .unavailable .. => "service_unavailable"
  | .timeout .. => "dispatch_timeout"
  | .protocol .. => "protocol_error"
  | .responded _ _ body => body.errorCode
  | .unknown .. => ErrorBody.unknownCode

/-- The tunnel failed before the service could have seen the call, so it may go over HTTP. -/
def allowsFallback : Fault → Bool
  | .unavailable _ .refused _ => true
  | .protocol .. => true
  | _ => false

/-- Worth another attempt when repeating the call is harmless. -/
def isTransportFailure : Fault → Bool
  | .unavailable _ .refused _ => true
  | .unavailable _ .disconnected _ => true
  | .protocol .. => true
  | _ => false

/-- The description in a fault's own body. -/
def description (f : Fault) : String :=
  match f with
  | .responded _ _ body => body.summary
  | _ => f.text

def ownBody (f : Fault) : Json :=
  .obj [("description", .str f.description), ("error_code", .str f.errorCode),
    ("message", .str f.text), ("service", .str f.service)]

/-- The body received, when it is an object; otherwise the fault in its own words. -/
def body (f : Fault) : Json :=
  match f with
  | .responded _ _ b => if b.raw.isObject then b.raw else f.ownBody
  | _ => f.ownBody

def response (f : Fault) : Http.Response := .json f.status f.body

end Fault

/-- Names that the registry of clients turns away. -/
inductive Refusal where
  | unknownService (name : String)
  | immutableRegistry (name : String)
  deriving DecidableEq, Repr

namespace Refusal

/-- The grave accent sets names off. -/
def marked (name : String) : String := "\x60" ++ name ++ "\x60"

def text : Refusal → String
  | .unknownService name =>
    "unknown service " ++ marked name ++ ": not a declared or required connection"
  | .immutableRegistry name =>
    "service registry is immutable; declare " ++ marked name ++ " in configuration instead"

def response (r : Refusal) : Http.Response :=
  .json .badRequest (.obj [("error_code", .str "unknown_service"), ("message", .str r.text)])

end Refusal
end Courier
