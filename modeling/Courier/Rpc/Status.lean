import Courier.Rpc.Code
import Courier.Fault
/-!
How a remote call ended when it did not succeed, and what that means to the caller.  The server's
refusals carry fixed openings, by which a caller tells a missing route or bad framing from an answer of
the service itself.  Here are `translate_status`, `is_connection_refused` and `is_protocol_failure`.
-/
namespace Courier.Rpc

/-- Opening of the message for an endpoint without a route. -/
def unregisteredEndpoint : String := "unregistered endpoint"

/-- Opening of the message for a call that is not framed as it should be. -/
def framingRejected : String := "framing rejected"

/-- An error below a status. -/
inductive Origin where
  | connectionRefused
  | other
  deriving DecidableEq, Repr

structure Status where
  code : Code
  message : String
  origins : List Origin
  deriving DecidableEq, Repr

namespace Status

/-- A status that no error lies below. -/
def plain (code : Code) (message : String) : Status := ⟨code, message, []⟩

/-- The connection was refused, by an error below the status or by the message itself. -/
def isConnectionRefused (s : Status) : Bool :=
  s.origins.contains .connectionRefused
    || (s.code == .unavailable && Text.contains (Text.lower s.message) "connection refused")

/-- Words of a peer that does not speak the tunnel's protocol. -/
def protocolWords : List String :=
  ["protocol error", "h2", "http2", "compression flag", "content-type"]

/-- The call broke the tunnel's framing, or a message was refused for its size. -/
def isProtocolFailure (s : Status) : Bool :=
  let message := Text.lower s.message
  match s.code with
  | .outOfRange => Text.contains message "message length too large"
  | .resourceExhausted => Text.contains message "message length too large"
  | .unimplemented => !Text.startsWith message unregisteredEndpoint
  | .invalidArgument => Text.startsWith message framingRejected
  | .internal => protocolWords.any (Text.contains message)
  | .unknown => protocolWords.any (Text.contains message)
  | _ => false

/-- A code of the table becomes a response with its HTTP status. -/
def responseFault (service : String) (s : Status) : Fault :=
  match httpStatus? s.code.number with
  | some n =>
    if s.code != .ok then
      .responded service n (ErrorBody.ofJson (.obj [("description", .str s.message),
        ("error_code", .str s.code.name), ("message", .str s.message)]))
    else .unknown service ("unexpected status " ++ s.code.title ++ ": " ++ s.message)
  | none => .unknown service ("unexpected status " ++ s.code.title ++ ": " ++ s.message)

/-- The fault behind a status.  A cancellation that arrives at or after the deadline is the server
enforcing that deadline. -/
def fault (service : String) (s : Status) (deadline : Option Duration) (elapsed : Duration) : Fault :=
  if s.isConnectionRefused then .unavailable service .refused s.message
  else
    match s.code with
    | .deadlineExceeded => .timeout service (deadline.getD elapsed)
    | .unavailable => .unavailable service .disconnected s.message
    | .cancelled =>
      match deadline with
      | some d => if d.le elapsed then .timeout service d else responseFault service s
      | none => responseFault service s
    | _ => if s.isProtocolFailure then .protocol service s.message else responseFault service s

end Status
end Courier.Rpc
