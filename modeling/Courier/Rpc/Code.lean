import Courier.Http.Status
/-!
Status codes of remote calls, with their numbers, their names and the HTTP status of each.  Here are
`to_http_status` and `code_name`.
-/
namespace Courier.Rpc

inductive Code where
  | ok | cancelled | unknown | invalidArgument | deadlineExceeded | notFound | alreadyExists
  | permissionDenied | resourceExhausted | failedPrecondition | aborted | outOfRange
  | unimplemented | internal | unavailable | dataLoss | unauthenticated
  deriving DecidableEq, Repr, Inhabited

/-- The HTTP status of a code number; numbers outside the table have none. -/
def httpStatus? (number : Int) : Option Nat :=
  match number with
  | 0 => some 200
  | 1 => some 499
  | 2 => some 500
  | 3 => some 400
  | 4 => some 504
  | 5 => some 404
  | 6 => some 409
  | 7 => some 403
  | 8 => some 429
  | 9 => some 400
  | 10 => some 409
  | 11 => some 400
  | 12 => some 501
  | 13 => some 500
  | 14 => some 503
  | 15 => some 500
  | 16 => some 401
  | _ => none

namespace Code

/-- Codes in the order of their numbers. -/
def all : List Code :=
  [ok, cancelled, unknown, invalidArgument, deadlineExceeded, notFound, alreadyExists,
    permissionDenied, resourceExhausted, failedPrecondition, aborted, outOfRange, unimplemented,
    internal, unavailable, dataLoss, unauthenticated]

def number : Code → Nat
  | .ok => 0
  | .cancelled => 1
  | .unknown => 2
  | .invalidArgument => 3
  | .deadlineExceeded => 4
  | .notFound => 5
  | .alreadyExists => 6
  | .permissionDenied => 7
  | .resourceExhausted => 8
  | .failedPrecondition => 9
  | .aborted => 10
  | .outOfRange => 11
  | .unimplemented => 12
  | .internal => 13
  | .unavailable => 14
  | .dataLoss => 15
  | .unauthenticated => 16

/-- Numbers that name no code count as `unknown`. -/
def ofNumber (n : Int) : Code :=
  match n with
  | .ofNat k => all[k]?.getD .unknown
  | .negSucc _ => .unknown

def name : Code → String
  | .ok => "ok"
  | .cancelled => "cancelled"
  | .unknown => "unknown"
  | .invalidArgument => "invalid_argument"
  | .deadlineExceeded => "deadline_exceeded"
  | .notFound => "not_found"
  | .alreadyExists => "already_exists"
  | .permissionDenied => "permission_denied"
  | .resourceExhausted => "resource_exhausted"
  | .failedPrecondition => "failed_precondition"
  | .aborted => "aborted"
  | .outOfRange => "out_of_range"
  | .unimplemented => "unimplemented"
  | .internal => "internal"
  | .unavailable => "unavailable"
  | .dataLoss => "data_loss"
  | .unauthenticated => "unauthenticated"

/-- The code as a word with capitals. -/
def title : Code → String
  | .ok => "Ok"
  | .cancelled => "Cancelled"
  | .unknown => "Unknown"
  | .invalidArgument => "InvalidArgument"
  | .deadlineExceeded => "DeadlineExceeded"
  | .notFound => "NotFound"
  | .alreadyExists => "AlreadyExists"
  | .permissionDenied => "PermissionDenied"
  | .resourceExhausted => "ResourceExhausted"
  | .failedPrecondition => "FailedPrecondition"
  | .aborted => "Aborted"
  | .outOfRange => "OutOfRange"
  | .unimplemented => "Unimplemented"
  | .internal => "Internal"
  | .unavailable => "Unavailable"
  | .dataLoss => "DataLoss"
  | .unauthenticated => "Unauthenticated"

end Code
end Courier.Rpc
