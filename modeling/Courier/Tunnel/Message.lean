import Courier.Struct
import Courier.Text
/-!
Messages of the tunnel: a request that is carried instead of being sent over HTTP, and its answer.
These are `TunneledRequest`, `TunneledResponse` and `FileBlob`.
-/
namespace Courier

/-- A file of an upload. -/
structure File where
  name : String
  contentType : String
  content : Bytes
  deriving DecidableEq, Repr

namespace Tunnel

structure Message where
  method : String
  endpoint : Bytes
  headers : Table String
  user : Option Struct
  service : Option Struct
  requestId : String
  body : Table String
  files : Table (List File)
  deriving Repr

def Message.empty : Message := ⟨"", [], [], none, none, "", [], []⟩

structure Reply where
  body : Bytes
  statusCode : Int
  deriving DecidableEq, Repr

end Tunnel
end Courier
