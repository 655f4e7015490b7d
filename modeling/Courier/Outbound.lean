import Courier.Trace
import Courier.Http.Date
/-!
Headers of an outbound call, the same for both transports.  What identifies the caller is set here and
cannot be overridden by the headers that a caller adds.  This is `outbound_headers`.
-/
namespace Courier.Outbound

/-- Names that a caller cannot set. -/
def protectedNames : List String :=
  ["authorization", "content-type", "content-length", "host", Claims.userHeader,
    Context.requestIdHeader, Trace.parentHeader, Trace.stateHeader]

def jsonType : String := "application/json"

/-- One header of the caller: dropped when protected or illegal. -/
def addExtra (h : Http.Headers) (e : String × String) : Http.Headers :=
  if protectedNames.contains e.1 then h
  else
    match Http.headerName? e.1 with
    | some name => h.tryInsertText name e.2
    | none => h

def bearer (token : String) : String := "Bearer " ++ token

/-- A body in parts brings its own content type. -/
def headers (context : Context) (token : String) (multipart : Bool) (extra : Table String)
    (active : Option Span) (date : String) : Http.Headers :=
  let h : Http.Headers := extra.foldl addExtra []
  let h := h.tryInsertText "date" date
  let h := h.tryInsertText "authorization" (bearer token)
  let h := h.tryInsertText Claims.userHeader (Claims.encode context.callerUser)
  let h := if h.has "accept" then h else h.insertText "accept" jsonType
  let h := if multipart then h else h.insertText "content-type" jsonType
  Trace.injectWithId active context.correlation h

end Courier.Outbound
