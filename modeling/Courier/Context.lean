import Courier.Base64
import Courier.Json.Parser
import Courier.Json.Printer
import Courier.Http.Headers
/-!
The context of a request: its correlation id, the claims of the user behind it and those of the service
that called.  User claims travel in a header, as Base 64 of their JSON text.  This is `OutboundContext`
with its `from_headers`, and `encode_claims` and `decode_claims`.
-/
namespace Courier

structure Context where
  correlationId : String := ""
  callerUser : Fields := []
  callerService : Fields := []
  deriving Repr, Inhabited

namespace Claims

/-- Header that carries the claims of the calling user. -/
def userHeader : String := "x-caller-user"

def encode (claims : Fields) : String := Base64.encode (Json.bytes (.obj claims))

/-- Anything but Base 64 of a JSON object carries no claims. -/
def decode? (encoded : String) : Option Fields :=
  match (Base64.decode? (Text.trim encoded)).bind Json.parse? with
  | some (.obj fields) => some fields
  | _ => none

end Claims

namespace Context

def requestIdHeader : String := "x-request-id"

/-- Correlation id of a request that has none. -/
def unknownId : String := "unknown"

def correlation (c : Context) : String :=
  if c.correlationId == "" then unknownId else c.correlationId

/-- What plain headers say.  They never vouch for a calling service. -/
def ofHeaders (h : Http.Headers) : Context where
  correlationId := (h.text? requestIdHeader).getD unknownId
  callerUser := ((h.text? Claims.userHeader).bind Claims.decode?).getD []
  callerService := []

end Context
end Courier
