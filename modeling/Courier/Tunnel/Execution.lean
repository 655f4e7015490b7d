import Courier.Service
import Courier.Tracker
import Courier.Tunnel.Intake
/-!
Executing a call of the tunnel.  A call that is let in is tracked while it runs, has at most its
deadline to come to a response, and may be dropped by its peer at any moment.  However it ends, one
access record is written for it.  Here are `execute` and `run` of `DispatchGrpcService`, and the
`CallLog` that writes the record.
-/
namespace Courier.Tunnel

/-- How a call ends. -/
inductive CallEnd where
  | answered (reply : Reply)
  | failed (status : Rpc.Status)
  | dropped
  | panicked
  | pending
  deriving Repr

structure Execution (σ : Type) where
  ending : CallEnd
  elapsed : Duration
  /-- Access records in the order in which they were written. -/
  records : List AccessRecord
  /-- Whether the call was let in. -/
  entered : Bool
  tracker : Tracker
  world : σ

/-- The service for endpoints without a route. -/
def unregistered {σ : Type} : Service σ := fun _ s =>
  (.served { response := .json .notFound (.obj [("error", .str "Not found")]), registered := false }, s)

/-- When a timer for `d` that is set at `now` goes off: at the next whole millisecond of the clock. -/
def timerTick (now : Instant) (d : Duration) : Duration :=
  .elapsed now ((now + d.nanos + (Duration.perMilli - 1)) / Duration.perMilli * Duration.perMilli)

def expired (limit : Duration) : Rpc.Status :=
  .plain .deadlineExceeded ("deadline of " ++ limit.text ++ " exceeded")

/-- The end of a call that began at `now` and that nobody drops, and when it comes; a call may also never
end.  The deadline covers the response up to its head. -/
def undisturbed (endpoint : String) (now : Instant) (limit : Option Duration) :
    Ending → CallEnd × Option Duration
  | .panicked => (.panicked, some .zero)
  | .silent =>
    match limit with
    | some d => (.failed (expired d), some (timerTick now d))
    | none => (.pending, none)
  | .served v =>
    match limit.filter fun d => (timerTick now d).lt v.delay with
    | some d => (.failed (expired d), some (timerTick now d))
    | none =>
      if !v.registered then
        (.failed (.plain .unimplemented (Rpc.unregisteredEndpoint ++ ": " ++ endpoint)), some v.delay)
      else
        match v.bodyEnd with
        | .complete =>
          (.answered ⟨v.response.body, v.response.status.code⟩, some (v.delay.add v.bodyDelay))
        | .broken detail =>
          (.failed (.plain .internal ("failed to read handler body: " ++ detail)),
            some (v.delay.add v.bodyDelay))
        | .endless => (.pending, none)

/-- A call that is still running when its peer goes away is dropped. -/
def dropAfter (cancel : Option Duration) (ended : CallEnd × Option Duration) : CallEnd × Duration :=
  match cancel, ended.2 with
  | some c, some t => if t.le c then (ended.1, t) else (.dropped, c)
  | some c, none => (.dropped, c)
  | none, t => (ended.1, t.getD .zero)

/-- The status that the log shows for the end of a call. -/
def loggedStatus (limit : Option Duration) (elapsed : Duration) : CallEnd → Nat
  | .answered reply => reply.statusCode.toNat
  | .failed status => (Rpc.httpStatus? status.code.number).getD Http.Status.internalError.code
  | _ =>
    if limit.any fun d => d.le elapsed then Http.Status.gatewayTimeout.code
    else Http.Status.clientClosed.code

def record (m : Message) (peer : Option String) (status : Nat) (elapsed : Duration) :
    AccessRecord where
  transport := .tunnel
  method := m.method
  endpoint := m.endpointText
  status := status
  elapsed := elapsed
  requestId := m.knownId
  peer := peer

/-- The records of a call; one that never ends is never logged. -/
def recordsOf (m : Message) (peer : Option String) (limit : Option Duration) (elapsed : Duration) :
    CallEnd → List AccessRecord
  | .pending => []
  | ended => [record m peer (loggedStatus limit elapsed ended) elapsed]

/-- What the service itself wrote by the time that the call ended. -/
def writtenBy (elapsed : Duration) : Ending → List AccessRecord
  | .served v => if v.delay.le elapsed then v.records else []
  | _ => []

/-- A call that was turned away before anything ran. -/
def turnedAway {σ : Type} (m : Message) (peer : Option String) (limit : Option Duration)
    (entered : Bool) (tracker : Tracker) (world : σ) (status : Rpc.Status) : Execution σ where
  ending := .failed status
  elapsed := .zero
  records := recordsOf m peer limit .zero (.failed status)
  entered := entered
  tracker := tracker
  world := world

/-- Execute one call, at `now`, for a peer that goes away after `cancel` if it does. -/
def execute {σ : Type} (service : Service σ) (boundary : String) (now : Instant)
    (metadata : Http.Headers) (peer : Option String) (m : Message) (cancel : Option Duration)
    (tracker : Tracker) (world : σ) : Execution σ :=
  match checkFraming metadata with
  | .error status => turnedAway m peer none false tracker world status
  | .ok _ =>
    match deadline? metadata with
    | .error status => turnedAway m peer none false tracker world status
    | .ok limit =>
      let tracker := tracker.enter now peer
      match m.inbound? boundary peer with
      | .error status => turnedAway m peer limit true (tracker.leave now peer) world status
      | .ok request =>
        let (ending, world) := service request world
        let (ended, elapsed) := dropAfter cancel (undisturbed m.endpointText now limit ending)
        { ending := ended
          elapsed := elapsed
          records := writtenBy elapsed ending ++ recordsOf m peer limit elapsed ended
          entered := true
          tracker := match ended with
            | .pending => tracker
            | _ => tracker.leave (now + elapsed.nanos) peer
          world := world }

end Courier.Tunnel
