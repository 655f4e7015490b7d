import Courier.Reply
import Courier.Request
import Courier.Settings
/-!
Repeating calls that are harmless to repeat.  A policy says how many attempts a call gets; attempts
follow each other until one settles the matter or none is left, and the last outcome stands.  Here are
`attempts` of `RetryPolicy`, `is_retryable` and `retry_dispatch`.
-/
namespace Courier

structure RetryPolicy where
  defaultRetries : UInt32 := 2
  maxRetries : UInt32 := 4
  deriving DecidableEq, Repr

namespace RetryPolicy

def ofSettings (s : Settings) : RetryPolicy := ⟨s.defaultRetryCount, s.maxRetryCount⟩

/-- The first attempt counts too; the count is a word and wraps. -/
def attempts (p : RetryPolicy) (method : String) (requested : Option UInt32) : UInt32 :=
  if method == getMethod then 1 + min (requested.getD p.defaultRetries) p.maxRetries else 1

end RetryPolicy

/-- A transport failure, or a response that reports trouble of the server. -/
def isRetryable : Outcome → Bool
  | .ok reply => reply.status.isServerError
  | .error fault => fault.isTransportFailure

/-- Attempts number `n` and later, of which `left` remain after this one. -/
def retryFrom {m : Type → Type} [Monad m] (attempt : Nat → m Outcome) (n : Nat) :
    Nat → m Outcome
  | 0 => attempt n
  | left + 1 => do
    let outcome ← attempt n
    if isRetryable outcome then retryFrom attempt (n + 1) left else pure outcome

/-- Attempts are numbered from one. -/
def retry {m : Type → Type} [Monad m] (p : RetryPolicy) (method : String)
    (requested : Option UInt32) (attempt : Nat → m Outcome) : m Outcome :=
  retryFrom attempt 1 ((p.attempts method requested).toNat - 1)

end Courier
