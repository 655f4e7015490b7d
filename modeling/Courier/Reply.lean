import Courier.Fault
import Courier.Json.Parser
/-!
What a call comes to: a reply that was received, or a fault.  A fault can be handed back as a reply of
its own.  This is `DispatchResponse` with `from_error` and `is_success`, and `decode_body`.
-/
namespace Courier

inductive Transport where
  | http | tunnel
  deriving DecidableEq, Repr

def Transport.label : Transport → String
  | .http => "http"
  | .tunnel => "grpc"

structure Reply where
  status : Http.Status
  body : Json
  transport : Transport
  deriving Repr

abbrev Outcome := Except Fault Reply

namespace Reply

def ofFault (f : Fault) (t : Transport) : Reply := ⟨f.status, f.body, t⟩

def isSuccess (r : Reply) : Bool := r.status.isSuccess

/-- ASCII blanks. -/
def isBlankByte (b : UInt8) : Bool :=
  b == 0x20 || b == 0x09 || b == 0x0A || b == 0x0C || b == 0x0D

/-- A body of blanks is null; what is not JSON is kept as text. -/
def decodeBody (b : Bytes) : Json :=
  if b.all isBlankByte then .null else (Json.parse? b).getD (.str (Text.lossy b))

end Reply
end Courier
