/-!
Whether a service's tunnel is open, as far as is known.  This is `HealthStatus` with `as_str` and
`from_proto`.
-/
namespace Courier

inductive HealthStatus where
  | unknown | serving | notServing | serviceUnknown
  deriving DecidableEq, Repr, Inhabited

namespace HealthStatus

def label : HealthStatus → String
  | .unknown => "unknown"
  | .serving => "serving"
  | .notServing => "not_serving"
  | .serviceUnknown => "service_unknown"

def all : List HealthStatus := [unknown, serving, notServing, serviceUnknown]

def ofLabel? (s : String) : Option HealthStatus := all.find? fun h => h.label == s

/-- The status behind a number in an answer of a health check. -/
def ofNumber : Int → HealthStatus
  | 1 => .serving
  | 2 => .notServing
  | 3 => .serviceUnknown
  | _ => .unknown

/-- What is published for a status: that a name is not known is never published. -/
def published : HealthStatus → HealthStatus
  | .serving => .serving
  | .notServing => .notServing
  | .unknown => .unknown
  | .serviceUnknown => .unknown

/-- The status as a word with capitals. -/
def title : HealthStatus → String
  | .unknown => "Unknown"
  | .serving => "Serving"
  | .notServing => "NotServing"
  | .serviceUnknown => "ServiceUnknown"

end HealthStatus
end Courier
