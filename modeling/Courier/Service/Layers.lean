import Courier.Context
import Courier.Http.Response
import Courier.Service
import Courier.Token
/-!
The layers around every service, the same for both transports.  From the outside in they give a request
its id, log it, settle who is calling, and turn a panic into a response.  The calling service is known
by its token alone, whatever else a request says.  Here is `apply_standard_layers`, with
`request_id_middleware`, `access_log_middleware`, `inbound_context_middleware` and `handle_panic`.
-/
namespace Courier.Layer

variable {σ : Type}

/-- The id that a request brings, or a fresh one. -/
def idOf (fresh : String) (h : Http.Headers) : String :=
  match h.text? Context.requestIdHeader with
  | some id => if id == "" then fresh else id
  | none => fresh

/-- The request carries its id to the service, and the response carries it back. -/
def requestId (fresh : String) : Layer σ := fun inner r s =>
  let id := idOf fresh r.headers
  let put := fun h : Http.Headers => h.tryInsertText Context.requestIdHeader id
  let (ending, s) := inner { r with headers := put r.headers } s
  (ending.map fun v => { v with response := { v.response with headers := put v.response.headers } }, s)

/-- What the log says of a request without an id. -/
def noId : String := "-"

def record (r : Inbound) (v : Served) : AccessRecord where
  transport := .http
  method := r.method
  endpoint := r.uri.path
  status := v.response.status.code
  elapsed := v.delay
  requestId := (r.headers.text? Context.requestIdHeader).getD noId
  peer := r.peer

/-- Requests of the tunnel are logged where the tunnel ends, not here. -/
def accessLog : Layer σ := fun inner r s =>
  if r.tunneled then inner r s
  else
    let (ending, s) := inner r s
    (ending.map fun v => { v with records := v.records ++ [record r v] }, s)

def bearerOpening : String := "Bearer "

/-- The token that a request shows. -/
def bearer? (h : Http.Headers) : Option String :=
  (h.text? "authorization").bind fun v => Text.dropStart? v bearerOpening

/-- The claims of the service that signed the request's token; none without a good token. -/
def callerService (identity : Identity) (h : Http.Headers) : Fields :=
  match bearer? h with
  | some token =>
    match Token.verify identity token with
    | .ok claims => claims.fields
    | .error _ => []
  | none => []

/-- The context that a service sees. -/
def contextOf (identity : Identity) (r : Inbound) : Context :=
  { r.currentContext with callerService := callerService identity r.headers }

def inboundContext (identity : Identity) : Layer σ := fun inner r s =>
  inner { r with context := some (contextOf identity r) } s

def panicResponse : Http.Response :=
  let r := Http.Response.json .internalError (.obj [("error", .str "Internal server error")])
  { r with headers := r.headers.insertText "cache-control" "no-store" }

def panicGuard : Layer σ := fun inner r s =>
  match inner r s with
  | (.panicked, s) => (.served { response := panicResponse }, s)
  | ended => ended

/-- All layers, outermost first. -/
def standard (identity : Identity) (fresh : String) : Layer σ := fun inner =>
  requestId fresh (accessLog (inboundContext identity (panicGuard inner)))

end Courier.Layer
