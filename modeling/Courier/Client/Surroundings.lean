import Courier.Health.Status
import Courier.Outbound.Call
import Courier.Reply
import Courier.Resolver
import Courier.Rpc.Status
/-!
What a client finds around it: a clock, a way to resolve services, a network.  Each is a function on a
state that is not looked into, so a client can be run against any network there may be.  How sending
ends is told apart here by cause, and turned into the fault that the caller sees.  `Delivery.outcome` is
how `send` of either transport ends, `translate` and `translate_status` included, and `CheckEnd.status`
how `probe` does.
-/
namespace Courier

/-- Trouble that the network words in its own way. -/
inductive Complaint where
  | badAddress | badMediaType
  deriving DecidableEq, Repr

namespace Http

/-- How sending a request over HTTP ends. -/
inductive Delivery where
  | answered (status : Status) (body : Bytes)
  | timedOut
  | unreachable (reason : Unavailability) (detail : String)
  | failed (detail : String)
  deriving Repr

/-- Any answer counts as received, whatever its status. -/
def Delivery.outcome (service : String) (limit : Duration) : Delivery → Outcome
  | .answered status body => .ok ⟨status, Reply.decodeBody body, .http⟩
  | .timedOut => .error (.timeout service limit)
  | .unreachable reason detail => .error (.unavailable service reason detail)
  | .failed detail => .error (.unknown service detail)

end Http

namespace Tunnel

/-- How a call over the tunnel ends. -/
inductive Delivery where
  | answered (reply : Reply)
  | ended (status : Rpc.Status) (elapsed : Duration)
  | timedOut
  deriving Repr

/-- A reply whose status is not one of HTTP breaks the protocol. -/
def Reply.outcome (service : String) (r : Reply) : Outcome :=
  match Http.Status.ofNat? r.statusCode.toNat with
  | some status => .ok ⟨status, Courier.Reply.decodeBody r.body, .tunnel⟩
  | none =>
    .error (.protocol service ("invalid tunneled status code " ++ toString r.statusCode))

def Delivery.outcome (service : String) (limit : Duration) : Delivery → Outcome
  | .answered reply => reply.outcome service
  | .ended status elapsed => .error (status.fault service (some limit) elapsed)
  | .timedOut => .error (.timeout service limit)

end Tunnel

namespace Health

/-- How asking a service for its health ends. -/
inductive CheckEnd where
  | answered (number : Int)
  | ended (status : Rpc.Status)
  | timedOut
  deriving Repr

/-- Nobody listening, or not under this name, says that the service is not known there. -/
def CheckEnd.status : CheckEnd → HealthStatus
  | .answered n => .ofNumber n
  | .ended s =>
    if s.isConnectionRefused || s.code == .notFound then .serviceUnknown else .unknown
  | .timedOut => .unknown

end Health

structure Surroundings (σ : Type) where
  now : σ → Instant
  /-- Seconds since the start of 1970. -/
  clock : σ → Int
  span : σ → Option Span
  resolve : Descriptor → σ → Resolution × σ
  /-- Stands in for the health check, if there is one. -/
  probe : Option (String → σ → HealthStatus × σ)
  check : String → Duration → σ → Health.CheckEnd × σ
  carry : Tunnel.Carriage → σ → Tunnel.Delivery × σ
  submit : Http.Submission → σ → Http.Delivery × σ
  word : Complaint → String

end Courier
