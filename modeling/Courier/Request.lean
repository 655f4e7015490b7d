import Courier.Fault
import Courier.Form
import Courier.Tunnel.Message
/-!
One call of a service, without regard to the transport that will carry it.  This is `DispatchRequest`
with the functions that build it up and `validate`.
-/
namespace Courier

/-- The method that may be repeated. -/
def getMethod : String := "GET"

/-- A path is relative to the versioned interface unless it starts with a slash. -/
structure Request where
  method : String
  path : String
  query : Form.Pairs := []
  payload : Fields := []
  files : Table (List File) := []
  headers : Table String := []
  /-- Failed responses are raised instead of being handed back. -/
  propagateError : Bool := false
  timeout : Option Duration := none
  retryCount : Option UInt32 := none
  /-- Fields whose value could not be written as JSON. -/
  rejectedFields : List String := []
  deriving Repr

namespace Request

/-- Methods are tokens; letter case matters. -/
def new? (method path : String) : Option Request :=
  if Http.isToken method then some { method := method, path := path } else none

def addQuery (key value : String) (r : Request) : Request :=
  { r with query := r.query ++ [(key, value)] }

def setField (key : String) (value : Json) (r : Request) : Request :=
  { r with payload := Table.insert key value r.payload }

/-- A value that cannot be written is left out, and the call will be refused. -/
def rejectField (key : String) (r : Request) : Request :=
  { r with rejectedFields := r.rejectedFields ++ [key] }

/-- Take the fields of an object as the body; other values change nothing. -/
def setBody (body : Json) (r : Request) : Request :=
  match body with
  | .obj fields => { r with payload := fields }
  | _ => r

def addFile (field : String) (file : File) (r : Request) : Request :=
  { r with files := Table.insert field (((Table.get? field r.files).getD []) ++ [file]) r.files }

def setHeader (name value : String) (r : Request) : Request :=
  { r with headers := Table.insert (Text.lower name) value r.headers }

def hasFiles (r : Request) : Bool := r.files.any fun f => !f.2.isEmpty

/-- The detail of a call refused for its fields. -/
def rejectionText (r : Request) : String :=
  "body fields failed to serialize: " ++ String.intercalate ", " r.rejectedFields

/-- Whether the call can be sent to `service`. -/
def validate (service : String) (r : Request) : Except Fault Unit :=
  if r.rejectedFields.isEmpty then .ok () else .error (.unknown service r.rejectionText)

end Request
end Courier
