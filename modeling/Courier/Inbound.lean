import Courier.Context
import Courier.Http.MediaType
import Courier.Http.Uri
import Courier.Reply
/-!
A request as a service receives it.  Requests of both transports look alike here; one that came over the
tunnel is marked and brings its context along.  The mark is `TunneledCall`, and the context is taken up
as `from_request_parts` of `OutboundContext` does it.
-/
namespace Courier

structure Inbound where
  method : String
  uri : Http.Uri
  headers : Http.Headers
  body : Bytes
  /-- A context that came with the request itself. -/
  context : Option Context := none
  tunneled : Bool := false
  peer : Option String := none
  deriving Repr

namespace Inbound

/-- The greatest body, in bytes, that a service takes in. -/
def bodyLimit : Nat := 2097152

def transport (r : Inbound) : Transport := if r.tunneled then .tunnel else .http

/-- The context that came along, else what the headers say. -/
def currentContext (r : Inbound) : Context := r.context.getD (Context.ofHeaders r.headers)

def mediaType? (r : Inbound) : Option Http.MediaType :=
  (r.headers.text? "content-type").bind Http.MediaType.parse?

/-- The body, unless it is too large. -/
def content? (r : Inbound) : Option Bytes :=
  if bodyLimit < r.body.length then none else some r.body

/-- The JSON value at the start of a body that is declared to be JSON. -/
def json? (r : Inbound) : Option Json :=
  if r.mediaType?.any Http.MediaType.isJson then
    r.content?.bind fun b => (Json.parseStart? b).map Prod.fst
  else none

end Inbound
end Courier
