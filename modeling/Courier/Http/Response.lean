import Courier.Http.Status
import Courier.Http.Headers
import Courier.Json.Printer
/-!
Responses: a status, header fields and a body.
-/
namespace Courier.Http

structure Response where
  status : Status
  headers : Headers
  body : Bytes
  deriving Repr, Inhabited

namespace Response

def jsonType : String := "application/json"

def plainType : String := "text/plain; charset=utf-8"

def json (status : Status) (value : Json) : Response :=
  ⟨status, [("content-type", Text.utf8 jsonType)], value.bytes⟩

def plain (status : Status) (text : String) : Response :=
  ⟨status, [("content-type", Text.utf8 plainType)], Text.utf8 text⟩

def empty (status : Status) : Response := ⟨status, [], []⟩

end Response
end Courier.Http
