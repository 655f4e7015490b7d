import Courier.Duration
/-!
How the tunnel's server is set up.  The plan is `TunnelServer` with the functions that build it up.
-/
namespace Courier

structure ServerPlan where
  serviceName : String
  reflection : Bool := true
  keepaliveInterval : Option Duration := some (.ofSeconds 30)
  keepaliveTimeout : Option Duration := some (.ofSeconds 10)
  /-- Calls under way at once on one connection. -/
  concurrencyLimit : Option Nat := none
  maxMessageSize : Nat := 67108864
  sweepInterval : Duration := .ofSeconds 30
  idlePeerTimeout : Duration := .ofSeconds 120
  deriving Repr

namespace ServerPlan

def withReflection (enable : Bool) (p : ServerPlan) : ServerPlan := { p with reflection := enable }

def withConcurrencyLimit (limit : Nat) (p : ServerPlan) : ServerPlan :=
  { p with concurrencyLimit := some limit }

def withMaxMessageSize (limit : Nat) (p : ServerPlan) : ServerPlan :=
  { p with maxMessageSize := limit }

end ServerPlan
end Courier
