/-!
Response statuses: the numbers of three digits from 100 on.
-/
namespace Courier.Http

structure Status where
  code : Nat
  hundred_le : 100 ≤ code
  code_lt : code < 1000
  deriving DecidableEq, Repr

namespace Status

def ofNat? (n : Nat) : Option Status :=
  if h : 100 ≤ n ∧ n < 1000 then some ⟨n, h.1, h.2⟩ else none

def ok : Status := ⟨200, by decide, by decide⟩

def badRequest : Status := ⟨400, by decide, by decide⟩

def notFound : Status := ⟨404, by decide, by decide⟩

def methodNotAllowed : Status := ⟨405, by decide, by decide⟩

/-- The caller went away before there was an answer. -/
def clientClosed : Status := ⟨499, by decide, by decide⟩

def internalError : Status := ⟨500, by decide, by decide⟩

def badGateway : Status := ⟨502, by decide, by decide⟩

def unavailable : Status := ⟨503, by decide, by decide⟩

def gatewayTimeout : Status := ⟨504, by decide, by decide⟩

instance : Inhabited Status := ⟨ok⟩

def isSuccess (s : Status) : Bool := 200 ≤ s.code && s.code < 300

def isServerError (s : Status) : Bool := 500 ≤ s.code && s.code < 600

/-- Statuses that report a failure. -/
def isFailure (s : Status) : Bool := 400 ≤ s.code

end Status
end Courier.Http
