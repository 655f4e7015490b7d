import Courier.Duration
import Courier.Health.Status
import Courier.Metrics
/-!
What is remembered of a service's health.  A status that was seen less than a certain time ago is
answered from memory; otherwise the service is probed, and whatever the probe says is remembered.  The
memory is that of `HealthStatusCache`, with `peek` and `invalidate`.
-/
namespace Courier.Health

structure Observation where
  status : HealthStatus
  checkedAt : Instant
  deriving DecidableEq, Repr

structure Cache where
  ttl : Duration
  stored : Option Observation := none
  deriving DecidableEq, Repr

namespace Cache

/-- The remembered status, while it is fresh. -/
def fresh? (now : Instant) (c : Cache) : Option HealthStatus :=
  match c.stored with
  | some o => if (Duration.elapsed o.checkedAt now).lt c.ttl then some o.status else none
  | none => none

def record (status : HealthStatus) (now : Instant) (c : Cache) : Cache :=
  { c with stored := some ⟨status, now⟩ }

def forget (c : Cache) : Cache := { c with stored := none }

/-- The remembered status, however old. -/
def peek (c : Cache) : Option HealthStatus := c.stored.map Observation.status

/-- The series that counts probes. -/
def countProbe (target : String) (status : HealthStatus) (m : Metrics) : Metrics :=
  Metrics.count "health_probes_total" [("status", status.label), ("target", target)] m

end Cache
end Courier.Health
