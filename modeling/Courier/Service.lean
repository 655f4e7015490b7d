import Courier.Access
import Courier.Http.Response
import Courier.Inbound
/-!
Services: what becomes of a request.  A service runs on a state and ends each request in one of three
ways.  Time is part of the answer: how long until the head of the response is there, and how the body
ends after that.  A layer makes one service of another.
-/
namespace Courier

/-- How the body of a response ends. -/
inductive BodyEnd where
  | complete
  | broken (detail : String)
  | endless
  deriving DecidableEq, Repr

structure Served where
  response : Http.Response
  /-- From the arrival of the request to the head of the response. -/
  delay : Duration := .zero
  /-- From the head of the response to the end of its body. -/
  bodyDelay : Duration := .zero
  bodyEnd : BodyEnd := .complete
  /-- Whether some route took the request. -/
  registered : Bool := true
  /-- Access records written on the way. -/
  records : List AccessRecord := []
  deriving Repr

inductive Ending where
  | served (answer : Served)
  | panicked
  | silent
  deriving Repr

def Ending.map (f : Served → Served) : Ending → Ending
  | .served v => .served (f v)
  | .panicked => .panicked
  | .silent => .silent

abbrev Service (σ : Type) := Inbound → σ → Ending × σ

abbrev Layer (σ : Type) := Service σ → Service σ

namespace Service

variable {σ : Type}

/-- The same response for every request. -/
def respond (response : Http.Response) : Service σ :=
  fun _ s => (.served { response := response }, s)

/-- A response computed from the request alone. -/
def purely (f : Inbound → Http.Response) : Service σ :=
  fun r s => (.served { response := f r }, s)

end Service
end Courier
