import Courier.Context
import Courier.Health.Status
import Courier.Json.Field
import Courier.Reply
import Courier.Report.Tagged
import Courier.Request
import Courier.Settings.Decode
/-!
Reading values from JSON: the parts of a call, what it came to, and what is built from them.
-/
namespace Courier.Report

open Json Json.Field

def readContext (j : Json) : Read Context := do
  return ⟨← textOr j "correlation_id" "", ← fields j "caller_user", ← fields j "caller_service"⟩

def readUnavailability (name : String) : String → Read Unavailability
  | "refused" => .ok .refused
  | "disconnected" => .ok .disconnected
  | "resolution" => .ok .resolution
  | "closed" => .ok .closed
  | _ => wrong name

/-- The service of a fault that names none. -/
def usualService : String := "ledger"

def readFault (j : Json) : Read Fault := do
  let service ← textOr j "service" usualService
  match ← text j "kind" with
  | "unavailable" =>
    return .unavailable service (← readUnavailability "reason" (← text j "reason"))
      (← textOr j "detail" "")
  | "timeout" => return .timeout service (← duration j "timeout")
  | "protocol" => return .protocol service (← textOr j "detail" "")
  | "upstream" => return .responded service (← nat j "status") (ErrorBody.ofJson (get j "body"))
  | "unknown" => return .unknown service (← textOr j "detail" "")
  | _ => wrong "kind"

def readOutcome (j : Json) : Read Outcome := do
  match get j "error" with
  | .null =>
    match Http.Status.ofNat? (← nat j "status") with
    | some s => return .ok ⟨s, get j "body", .http⟩
    | none => wrong "status"
  | e => return .error (← readFault e)

def readFile (j : Json) : Read File := do
  return ⟨← textOr j "name" "", ← textOr j "content_type" "", ← bytes j "content"⟩

def readFiles (j : Json) (name : String) : Read (Table (List File)) :=
  table (fun l => do (← asList name l).mapM readFile) j name

/-- Claims are given with the kind of each value, or as plain JSON. -/
def readClaims (j : Json) (withKinds plain : String) : Read (Option Struct) := do
  match get j plain, get j withKinds with
  | .obj f, _ => return some (Struct.ofJson f)
  | _, .null => return none
  | _, s => return some (← readStruct withKinds s)

def readMessage (j : Json) : Read Tunnel.Message := do
  return { method := ← textOr j "method" ""
           endpoint := ← bytes j "endpoint"
           headers := ← textTable j "headers"
           user := ← readClaims j "user" "user_json"
           service := ← readClaims j "service" "service_json"
           requestId := ← textOr j "request_id" ""
           body := ← textTable j "body"
           files := ← readFiles j "files" }

def readHealth (name : String) (j : Json) : Read HealthStatus := do
  match HealthStatus.ofLabel? (← asText name j) with
  | some s => .ok s
  | none => wrong name

/-- One step of building a request: an object whose only field names the step. -/
def applyBuildStep (r : Request) : Json → Read Request
  | .obj [("query", .arr [.str k, .str x])] => .ok (r.addQuery k x)
  | .obj [("field", .arr [.str k, x])] => .ok (r.setField k x)
  | .obj [("bad_field", .str k)] => .ok (r.rejectField k)
  | .obj [("text_field", .arr [.str k, x])] => do
    return r.setField k (.str (← asUtf8 "text_field" x))
  | .obj [("json", x)] => .ok (r.setBody x)
  | .obj [("file", .arr [.str k, x])] => do return r.addFile k (← readFile x)
  | .obj [("header", .arr [.str k, .str x])] => .ok (r.setHeader k x)
  | .obj [("propagate_error", .bool b)] => .ok { r with propagateError := b }
  | .obj [("timeout_ms", .int (.ofNat n))] => .ok { r with timeout := some (.ofMillis n) }
  | .obj [("retry_count", n)] => do return { r with retryCount := some (← asWord32 "retry_count" n) }
  | _ => wrong "build"

end Courier.Report
