import Courier.Endpoint
import Courier.Http.MediaType
import Courier.Multipart
import Courier.Outbound
import Courier.Request
import Courier.Rpc.Deadline
import Courier.Tunnel.Body
/-!
A call on its way out, and the two forms in which it leaves: a message of the tunnel, or a submission
over HTTP.  Both have the same headers; over HTTP the body is the JSON text of the fields or, if there
are files, a body in parts.  The message and its metadata are what `send` of `TunneledTransport` makes
of an `OutboundCall`, with `wire_headers`, `encode_body_fields` and `encode_files`; the submission is
what `send` of `HttpTransport` makes of it, with `multipart`.
-/
namespace Courier

namespace Http

/-- A part of a body; files have a file name and a content type. -/
structure Part where
  name : String
  fileName : Option String
  contentType : Option String
  content : Bytes
  deriving DecidableEq, Repr

inductive Payload where
  | empty
  | json (fields : Fields)
  | parts (parts : List Part)
  deriving Repr

/-- A request to be sent; the query goes behind the question mark of the address. -/
structure Submission where
  method : String
  url : String
  query : Form.Pairs
  headers : Headers
  payload : Payload
  timeout : Duration
  deriving Repr

/-- The bytes of a body that is not in parts. -/
def Payload.bytes? : Payload → Option Bytes
  | .empty => some []
  | .json fields => some (Json.bytes (.obj fields))
  | .parts _ => none

end Http

/-- A message of the tunnel with what travels beside it. -/
structure Tunnel.Carriage where
  address : String
  message : Tunnel.Message
  metadata : Http.Headers
  timeout : Duration
  /-- The greatest length of a message, in bytes, that the caller writes or reads. -/
  messageLimit : Nat
  deriving Repr

structure Call where
  target : String
  request : Request
  context : Context
  endpoint : Endpoint
  headers : Http.Headers
  /-- Claims of the calling service. -/
  claims : Fields
  timeout : Duration
  span : Option Span
  deriving Repr

namespace Call

def path (c : Call) : String := c.endpoint.requestPath c.request.path

/-- Headers whose values are visible text travel in a message. -/
def wireHeaders (h : Http.Headers) : Table String :=
  Table.ofList (h.filterMap fun e => (Http.visible? e.2).map fun v => (e.1, v))

def message (c : Call) : Tunnel.Message where
  method := c.request.method
  endpoint := Text.utf8 (Form.withQuery c.path c.request.query)
  headers := wireHeaders c.headers
  user := some (Struct.ofJson c.context.callerUser)
  service := some (Struct.ofJson c.claims)
  requestId := c.context.correlation
  body := Tunnel.encodeFields c.request.payload
  files := c.request.files

/-- Deadlines that are too long to be written cannot be carried. -/
def carriage? (messageLimit : Nat) (c : Call) : Option Tunnel.Carriage :=
  (Rpc.Deadline.write? c.timeout).map fun deadline =>
    { address := c.endpoint.tunnelAddress
      message := c.message
      metadata := Trace.injectWithId c.span c.context.correlation
        [(Rpc.Deadline.header, Text.utf8 deadline)]
      timeout := c.timeout
      messageLimit := messageLimit }

def fieldPart (f : String × Json) : Http.Part := ⟨f.1, none, none, f.2.bytes⟩

def filePart (field : String) (file : File) : Http.Part :=
  ⟨field, some file.name, some file.contentType, file.content⟩

/-- Fields in the order of their names, then files. -/
def parts (r : Request) : List Http.Part :=
  r.payload.map fieldPart ++ r.files.flatMap fun g => g.2.map (filePart g.1)

/-- The first file without a proper content type. -/
def unfitFile? (r : Request) : Option File :=
  (r.files.flatMap Prod.snd).find? fun file => (Http.MediaType.parse? file.contentType).isNone

def payload (r : Request) : Http.Payload :=
  if r.hasFiles then .parts (parts r)
  else if r.payload.isEmpty then .empty
  else .json r.payload

def submission (c : Call) : Http.Submission where
  method := c.request.method
  url := c.endpoint.httpBase ++ c.path
  query := c.request.query
  headers := c.headers
  payload := payload c.request
  timeout := c.timeout

end Call
end Courier
