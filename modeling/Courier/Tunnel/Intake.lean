import Courier.Inbound
import Courier.Multipart
import Courier.Rpc.Deadline
import Courier.Rpc.Status
import Courier.Tunnel.Body
/-!
Taking a message of the tunnel in.  The call has to be framed as a remote call and its deadline has to
be readable; then the message becomes a request like any other.  The message's own claims about the
calling service are left behind, since nothing vouches for them.  Here are `validate_framing`,
`deadline` and `synthetic_request`.
-/
namespace Courier.Tunnel

def framedType : String := "application/grpc"

def trailers : String := "trailers"

/-- The metadata of a call that is framed as it should be. -/
def framing : Http.Headers :=
  [("content-type", Text.utf8 framedType), ("te", Text.utf8 trailers)]

def isFramedType (t : String) : Bool := t == framedType || Text.startsWith t (framedType ++ "+")

def unframed (complaint : String) : Rpc.Status :=
  .plain .invalidArgument (Rpc.framingRejected ++ ": " ++ complaint)

/-- The content type is looked at first. -/
def checkFraming (metadata : Http.Headers) : Except Rpc.Status Unit :=
  let type := (metadata.text? "content-type").getD ""
  if !isFramedType type then
    .error (unframed ("unsupported content-type \x60" ++ type ++ "\x60"))
  else if metadata.text? "te" != some trailers then
    .error (unframed ("missing \x60te: " ++ trailers ++ "\x60"))
  else .ok ()

/-- The time that a call is given, if it says so in visible text. -/
def deadline? (metadata : Http.Headers) : Except Rpc.Status (Option Duration) :=
  match metadata.text? Rpc.Deadline.header with
  | none => .ok none
  | some raw =>
    match Rpc.Deadline.parse raw with
    | .span d => .ok (some d)
    | _ => .error (.plain .outOfRange "invalid deadline")

/-- Headers that are made from the message itself. -/
def replacedHeaders : List String := ["content-type", "content-length", "transfer-encoding", "host"]

/-- One header of a message: left out when it is replaced or illegal. -/
def addHeader (h : Http.Headers) (e : String × String) : Http.Headers :=
  if replacedHeaders.contains (Text.lower e.1) then h
  else
    match Http.headerName? e.1 with
    | some name => h.tryInsertText name e.2
    | none => h

namespace Message

def endpointText (m : Message) : String := Text.lossy m.endpoint

/-- The id of a request that has one. -/
def knownId (m : Message) : String := if m.requestId == "" then Context.unknownId else m.requestId

def userClaims (m : Message) : Fields := (m.user.map Struct.toJson).getD []

def context (m : Message) : Context := ⟨m.knownId, m.userClaims, []⟩

/-- Fields become one JSON object; with files there is a body in parts instead. -/
def contentType (boundary : String) (m : Message) : String :=
  if m.files.isEmpty then "application/json" else "multipart/form-data; boundary=" ++ boundary

def content (boundary : String) (m : Message) : Bytes :=
  if m.files.isEmpty then
    if m.body.isEmpty then [] else Json.bytes (.obj (decodeFields m.body))
  else Multipart.encode boundary m.body m.files

def inboundHeaders (boundary : String) (m : Message) : Http.Headers :=
  let h : Http.Headers := m.headers.foldl addHeader []
  let h := h.tryInsertText "content-type" (m.contentType boundary)
  h.tryInsertText Context.requestIdHeader m.knownId

/-- The peer of a call in process. -/
def noPeer : String := "0.0.0.0:0"

def endpointUri? (m : Message) : Option Http.Uri :=
  (Http.Uri.parse? m.endpointText).filter fun u => Text.startsWith u.path "/"

/-- The request of a message; the method is looked at before the endpoint. -/
def inbound? (boundary : String) (peer : Option String) (m : Message) : Except Rpc.Status Inbound :=
  let method := Text.upper m.method
  if !Http.isToken method then
    .error (.plain .invalidArgument ("invalid method \x60" ++ m.method ++ "\x60"))
  else
    match m.endpointUri? with
    | none => .error (.plain .invalidArgument ("invalid endpoint \x60" ++ m.endpointText ++ "\x60"))
    | some uri =>
      .ok { method := method, uri := uri, headers := m.inboundHeaders boundary
            body := m.content boundary, context := some m.context, tunneled := true
            peer := some (peer.getD noPeer) }

end Message
end Courier.Tunnel
