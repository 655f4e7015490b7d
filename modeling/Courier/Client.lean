import Courier.Client.Surroundings
import Courier.Health.Cache
import Courier.Http.Uri
import Courier.Http.Url
import Courier.Retry
import Courier.Token
/-!
The client of one service.  A call goes over the tunnel when the service says that it is serving, and
over HTTP otherwise or when the tunnel turns out to be unusable.  Calls over HTTP are repeated where
that is harmless; calls over the tunnel are not.  However a call ends, it is settled and counted once.
These are `dispatch`, `http_dispatch`, `grpc_dispatch`, `send`, `credentials`, `settle` and `close` of
`ServiceClient`, with the `channel`, `probe` and `send` of `TunneledTransport` and the `probe` of
`GrpcHealthProbe` that they lead to.
-/
namespace Courier

/-- What the client signs once and shows with every call. -/
structure Credentials where
  token : String
  claims : Fields
  deriving Repr

structure Client where
  descriptor : Descriptor
  identity : Identity
  retry : RetryPolicy
  requestTimeout : Duration
  probeTimeout : Duration
  /-- The greatest length of a message of the tunnel. -/
  messageLimit : Nat
  health : Health.Cache
  credentials : Option Credentials := none
  closed : Bool := false
  /-- The address of the tunnel channel, once there is one. -/
  channel : Option String := none
  /-- Whether there is a pool of HTTP connections. -/
  pooled : Bool := false
  deriving Repr

/-- Limits that are checked nowhere and stop a client in its tracks. -/
inductive Breach where
  | tooManyPermits
  | deadlineTooLong
  deriving DecidableEq, Repr

structure Session (σ : Type) where
  client : Client
  metrics : Metrics := []
  world : σ

abbrev Act (σ α : Type) := ExceptT Breach (StateM (Session σ)) α

namespace Client

/-- The most calls that can be let in at once. -/
def permitLimit : Nat := 2305843009213693951

def ofSettings (name : String) (s : Settings) : Except Breach Client :=
  if permitLimit < s.dispatchPermits.toNat then .error .tooManyPermits
  else .ok {
    descriptor := Descriptor.ofSettings name s
    identity := ⟨s.serviceName, s.tokenSecret⟩
    retry := RetryPolicy.ofSettings s
    requestTimeout := s.requestTimeout
    probeTimeout := s.healthProbeTimeout
    messageLimit := s.maxMessageBytes.toNat
    health := { ttl := s.healthTtl } }

def name (c : Client) : String := c.descriptor.name

/-- A closed client keeps neither channel nor pool; closing it again changes nothing. -/
def close (c : Client) : Client :=
  if c.closed then c else { c with closed := true, channel := none, pooled := false }

def shut (c : Client) : Fault := .unavailable c.name .closed "client was closed"

/-- Raise a response that reports failure, if the request asks for that. -/
def raise (service : String) (propagate : Bool) : Outcome → Outcome
  | .ok r =>
    if propagate && r.status.isFailure then
      .error (.responded service r.status.code (ErrorBody.ofJson r.body))
    else .ok r
  | .error f => .error f

/-- Unless faults are raised they are handed over as data. -/
def handOver (propagate : Bool) (t : Transport) : Outcome → Outcome
  | .ok r => .ok r
  | .error f => if propagate then .error f else .ok (Reply.ofFault f t)

/-- The word under which an outcome is counted. -/
def outcomeLabel : Outcome → String
  | .ok r => if r.isSuccess then "success" else toString r.status.code
  | .error f => f.errorCode

def requestsSeries : String := "dispatch_requests_total"

def durationSeries : String := "dispatch_duration_seconds"

def fallbacksSeries : String := "dispatch_fallbacks_total"

def countOutcome (service : String) (t : Transport) (o : Outcome) (m : Metrics) : Metrics :=
  Metrics.count durationSeries [("target", service), ("transport", t.label)]
    (Metrics.count requestsSeries
      [("target", service), ("transport", t.label), ("outcome", outcomeLabel o)] m)

/-- What the caller gets for an outcome, and the counts with it. -/
def settle (service : String) (propagate : Bool) (t : Transport) (o : Outcome) (m : Metrics) :
    Outcome × Metrics :=
  let raised := raise service propagate o
  (handOver propagate t raised, countOutcome service t raised m)

end Client

namespace Act

variable {σ : Type}

def client : Act σ Client := do return (← get).client

def modifyClient (f : Client → Client) : Act σ Unit :=
  modify fun s => { s with client := f s.client }

def modifyMetrics (f : Metrics → Metrics) : Act σ Unit :=
  modify fun s => { s with metrics := f s.metrics }

/-- Let the surroundings do something. -/
def outside {α : Type} (f : σ → α × σ) : Act σ α := do
  let s ← get
  let (a, world) := f s.world
  set { s with world := world }
  return a

def ask {α : Type} (f : σ → α) : Act σ α := do return f (← get).world

end Act

namespace Client

variable {σ : Type} (w : Surroundings σ)

def resolve : Act σ (Except Fault Endpoint) := do
  let c ← Act.client
  match ← Act.outside (w.resolve c.descriptor) with
  | .ok e => return .ok e
  | .error e => return .error (.unavailable c.name .resolution e.text)

/-- The token is signed on the first call and kept. -/
def signed : Act σ Credentials := do
  let c ← Act.client
  match c.credentials with
  | some k => return k
  | none =>
    let (token, claims) := Token.issue c.identity c.name (← Act.ask w.clock)
    let k : Credentials := ⟨token, claims.fields⟩
    Act.modifyClient fun c => { c with credentials := some k }
    return k

/-- The channel to an address; it is made anew when the address has changed. -/
def openChannel (address : String) : Act σ (Except Fault Unit) := do
  let c ← Act.client
  if c.channel == some address then return .ok ()
  else if (Http.Uri.parse? address).isNone then
    return .error (.unavailable c.name .resolution "invalid URI")
  else
    Act.modifyClient fun c => { c with channel := some address }
    return .ok ()

/-- Ask the service over its tunnel. -/
def check : Act σ HealthStatus := do
  match ← resolve w with
  | .error _ => return .unknown
  | .ok e =>
    match ← openChannel e.tunnelAddress with
    | .error _ => return .unknown
    | .ok _ =>
      let limit := (← Act.client).probeTimeout
      match Rpc.Deadline.write? limit with
      | none => throw .deadlineTooLong
      | some _ => return (← Act.outside (w.check e.tunnelAddress limit)).status

def probe : Act σ HealthStatus := do
  match w.probe with
  | some p => Act.outside (p (← Act.client).name)
  | none => check w

/-- The service's health, from memory while that is fresh. -/
def status : Act σ HealthStatus := do
  match (← Act.client).health.fresh? (← Act.ask w.now) with
  | some h => return h
  | none =>
    let h ← probe w
    let seen ← Act.ask w.now
    let name := (← Act.client).name
    Act.modifyMetrics (Health.Cache.countProbe name h)
    Act.modifyClient fun c => { c with health := c.health.record h seen }
    return h

def isServing : Act σ Bool := do return (← status w) == .serving

def invalidate : Act σ Unit :=
  Act.modifyClient fun c => { c with health := c.health.forget }

def sendTunnel (call : Call) : Act σ Outcome := do
  match ← openChannel call.endpoint.tunnelAddress with
  | .error f => return .error f
  | .ok _ =>
    match call.carriage? (← Act.client).messageLimit with
    | none => throw .deadlineTooLong
    | some carriage =>
      return (← Act.outside (w.carry carriage)).outcome call.target call.timeout

/-- One attempt over HTTP. -/
def sendHttp (call : Call) : Act σ Outcome := do
  Act.modifyClient fun c => { c with pooled := true }
  match if call.request.hasFiles then Call.unfitFile? call.request else none with
  | some file =>
    return .error (.unknown call.target
      ("invalid content type for " ++ file.name ++ ": " ++ w.word .badMediaType))
  | none =>
    if Http.Url.isUsable call.submission.url then
      return (← Act.outside (w.submit call.submission)).outcome call.target call.timeout
    else return .error (.unknown call.target (w.word .badAddress))

def call (context : Context) (r : Request) (e : Endpoint) : Act σ Call := do
  let k ← signed w
  let c ← Act.client
  let span ← Act.ask w.span
  let date := Http.Date.text (← Act.ask w.clock)
  return { target := c.name, request := r, context := context, endpoint := e
           headers := Outbound.headers context k.token r.hasFiles r.headers span date
           claims := k.claims
           timeout := r.timeout.getD c.requestTimeout
           span := span }

/-- Everything that one transport does for a request. -/
def send (t : Transport) (context : Context) (r : Request) : Act σ Outcome := do
  let c ← Act.client
  if c.closed then return .error c.shut
  else
    match r.validate c.name with
    | .error f => return .error f
    | .ok _ =>
      match ← resolve w with
      | .error f => return .error f
      | .ok e =>
        let call ← call w context r e
        match t with
        | .http => Courier.retry c.retry r.method r.retryCount fun _ => sendHttp w call
        | .tunnel => sendTunnel w call

def conclude (t : Transport) (r : Request) (o : Outcome) : Act σ Outcome := do
  let name := (← Act.client).name
  let settled := fun m => settle name r.propagateError t o m
  Act.modifyMetrics fun m => (settled m).2
  return (settled []).1

/-- Over HTTP, whatever the service's health. -/
def httpDispatch (context : Context) (r : Request) : Act σ Outcome := do
  conclude .http r (← send w .http context r)

/-- Over the tunnel, whatever the service's health. -/
def tunnelDispatch (context : Context) (r : Request) : Act σ Outcome := do
  conclude .tunnel r (← send w .tunnel context r)

/-- Whether the tunnel's outcome sends the request over HTTP. -/
def fallsBack : Outcome → Bool
  | .ok _ => false
  | .error f => f.allowsFallback

def dispatch (context : Context) (r : Request) : Act σ Outcome := do
  if ← isServing w then
    let o ← send w .tunnel context r
    if fallsBack o then
      let name := (← Act.client).name
      Act.modifyMetrics (Metrics.count fallbacksSeries [("target", name)])
      httpDispatch w context r
    else conclude .tunnel r o
  else httpDispatch w context r

end Client
end Courier
