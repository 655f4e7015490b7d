import Courier.Failure
import Courier.Multipart.Reader
import Courier.Registry
import Courier.Service.Layers
import Courier.Service.Route
/-!
The relay: a service that answers for itself and hands requests on to the services it may call.  It says
whether it is up, and whether all that it depends on is serving.  The routes are those of `router`:
`ping`, `echo`, `upload`, `fail`, `relay`, `health_check` and `readiness_check`.
-/
namespace Courier

/-- What a relay holds: its clients, its counts, and the surroundings that its clients act on. -/
structure Relay (σ : Type) where
  registry : Registry
  metrics : Metrics := []
  world : σ

namespace Relay

variable {σ : Type}

def version : String := "0.1.0"

def serviceName (s : Relay σ) : String := s.registry.settings.serviceName

/-- Run an action on the client of a service. -/
def withClient {α : Type} (name : String) (act : Act σ α) (s : Relay σ) :
    Except RegistryError α × Relay σ :=
  match s.registry.get name with
  | (.error e, registry) => (.error e, { s with registry := registry })
  | (.ok n, registry) =>
    match registry.run n act s.metrics s.world with
    | none => (.error (.refused (.unknownService name)), { s with registry := registry })
    | some (result, metrics, world, registry) => (result.mapError .breach, ⟨registry, metrics, world⟩)

/-- An answer that depends on the relay and does not change it. -/
def reading (f : Inbound → Relay σ → Http.Response) : Service (Relay σ) :=
  fun r s => (.served { response := f r s }, s)

def ping : Service (Relay σ) :=
  reading fun _ s => .json .ok (.obj [("pong", .bool true), ("service", .str s.serviceName)])

def health : Service (Relay σ) :=
  reading fun _ s => .json .ok (.obj [("service", .str s.serviceName), ("status", .str "ok"),
    ("version", .str version)])

/-- What arrived: the body, the context, and the transport that carried them. -/
def echo : Service (Relay σ) :=
  Service.purely fun r =>
    let c := r.currentContext
    .json .ok (.obj [("body", r.json?.getD .null), ("caller_service", .obj c.callerService),
      ("caller_user", .obj c.callerUser), ("request_id", .str c.correlation),
      ("transport", .str r.transport.label)])

def isErrorStatus (s : Http.Status) : Bool := s.isFailure && s.code < 600

/-- Answer with the error status that is asked for. -/
def fail (cs : List Capture) : Service (Relay σ) :=
  Service.purely fun _ =>
    match Capture.number 16 cs with
    | .error e => e.response
    | .ok n =>
      match (Http.Status.ofNat? n).filter isErrorStatus with
      | some status =>
        .json status (.obj [("description", .str "requested through /fail"),
          ("error_code", .str "forced_failure"), ("message", .str ("forced failure " ++ toString n))])
      | none => (Failure.badRequest (.message (toString n ++ " is not an error status"))).response

/-- The fields and files of an upload; of two with one name the later one counts. -/
def summary (pieces : List Multipart.Piece) : Json :=
  let add := fun (t : Fields × Fields) (p : Multipart.Piece) =>
    match p.fileName? with
    | some file =>
      (t.1, Table.insert p.name (.obj [("content_type", .str ((p.mediaType?.map (·.text)).getD "")),
        ("file_name", .str file), ("size", .int p.content.length)]) t.2)
    | none => (Table.insert p.name (.str p.text) t.1, t.2)
  let (fields, files) := pieces.foldl add ([], [])
  .obj [("fields", .obj fields), ("files", .obj files)]

def noBoundary : String := "Invalid \x60boundary\x60 for \x60multipart/form-data\x60 request"

def badParts : String := "Error parsing \x60multipart/form-data\x60 request"

def upload : Service (Relay σ) :=
  Service.purely fun r =>
    match r.mediaType?.bind Http.MediaType.boundary? with
    | none => .plain .badRequest noBoundary
    | some boundary =>
      match r.content?.bind (Multipart.read? boundary) with
      | some pieces => .json .ok (summary pieces)
      | none => (Failure.badRequest (.message badParts)).response

/-- The request that is handed on. -/
def handedOn (r : Inbound) (path : String) : Request :=
  let base : Request := { method := r.method, path := path }
  let query := match r.uri.query with
    | some q => Form.decode (Text.utf8 q)
    | none => []
  let asked := query.foldl (fun q p => q.addQuery p.1 p.2) base
  match r.json? with
  | some (.obj fields) => asked.setBody (.obj fields)
  | _ => asked

def outcomeResponse : Outcome → Http.Response
  | .ok reply => .json reply.status reply.body
  | .error f => (Failure.dispatch f).response

/-- Hand a request on to the service that the path names, and its answer back. -/
def relay (w : Surroundings σ) (cs : List Capture) : Service (Relay σ) := fun r s =>
  match Capture.texts cs with
  | .ok [service, path] =>
    match withClient service (Client.dispatch w r.currentContext (handedOn r path)) s with
    | (.ok outcome, s) => (.served { response := outcomeResponse outcome }, s)
    | (.error (.refused e), s) =>
      (.served { response := (Failure.badRequest (.message e.text)).response }, s)
    | (.error (.breach _), s) => (.panicked, s)
  | .ok _ => (.panicked, s)
  | .error e => (.served { response := e.response }, s)

/-- Whether a service says that it is serving; a service that may not be called does not. -/
def isServing (w : Surroundings σ) (name : String) (s : Relay σ) : Except Breach Bool × Relay σ :=
  match withClient name (Client.isServing w) s with
  | (.ok serving, s) => (.ok serving, s)
  | (.error (.refused _), s) => (.ok false, s)
  | (.error (.breach b), s) => (.error b, s)

/-- Those of some services that are not serving, asked one after the other. -/
def unavailable (w : Surroundings σ) : List String → Relay σ → Except Breach (List String) × Relay σ
  | [], s => (.ok [], s)
  | name :: names, s =>
    match isServing w name s with
    | (.error b, s) => (.error b, s)
    | (.ok serving, s) =>
      let (others, s) := unavailable w names s
      (others.map fun l => if serving then l else name :: l, s)

def readiness : List String → Http.Response
  | [] => .json .ok (.obj [("status", .str "ready")])
  | names =>
    .json .unavailable (.obj [("status", .str "not_ready"), ("unavailable", Json.ofStrings names)])

/-- Ready when every service that it requires is serving. -/
def ready (w : Surroundings σ) : Service (Relay σ) := fun _ s =>
  match unavailable w s.registry.settings.requiredConnections s with
  | (.ok names, s) => (.served { response := readiness names }, s)
  | (.error _, s) => (.panicked, s)

def api (pattern : List Segment) : List Segment := .literal "api" :: .literal "v1" :: pattern

def routes (w : Surroundings σ) : List (Route (Relay σ)) :=
  [{ pattern := api [.literal "ping"], methods := .get, handler := fun _ => ping },
    { pattern := api [.literal "echo"], methods := .any, handler := fun _ => echo },
    { pattern := api [.literal "upload"], methods := .post, handler := fun _ => upload },
    { pattern := api [.literal "fail", .piece "code"], methods := .any, handler := fail },
    { pattern := api [.literal "relay", .piece "service", .remainder "path"], methods := .any
      handler := relay w },
    { pattern := [.literal "health"], methods := .get, handler := fun _ => health },
    { pattern := [.literal "ready"], methods := .get, handler := fun _ => ready w }]

end Relay
end Courier
