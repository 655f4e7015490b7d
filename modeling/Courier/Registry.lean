import Courier.Client
/-!
The clients that a service holds, one for each name that it may call.  A client is built when its name
is first asked for and shared from then on; taking a name out closes its client, and the next call for
the name builds another.  This is `ServiceRegistry` with `get`, `insert`, `reset` and `shutdown`.
-/
namespace Courier

structure Registry where
  settings : Settings
  /-- The client of each name, as a number in `instances`. -/
  clients : Table Nat := []
  /-- Every client built so far, in order. -/
  instances : List Client := []
  deriving Repr

/-- Why no client is handed out. -/
inductive RegistryError where
  | refused (refusal : Refusal)
  | breach (breach : Breach)
  deriving DecidableEq, Repr

namespace Registry

def allowed (r : Registry) : List String := r.settings.allowedServices

def identity (r : Registry) : Identity := ⟨r.settings.serviceName, r.settings.tokenSecret⟩

def size (r : Registry) : Nat := r.clients.length

/-- The number of the client for a name. -/
def get (name : String) (r : Registry) : Except RegistryError Nat × Registry :=
  if r.allowed.contains name then
    match Table.get? name r.clients with
    | some n => (.ok n, r)
    | none =>
      match Client.ofSettings name r.settings with
      | .ok c =>
        (.ok r.instances.length,
          { r with clients := Table.insert name r.instances.length r.clients
                   instances := r.instances ++ [c] })
      | .error b => (.error (.breach b), r)
  else (.error (.refused (.unknownService name)), r)

/-- Clients come from the settings only. -/
def insert (name : String) (r : Registry) : Except RegistryError Unit × Registry :=
  (.error (.refused (.immutableRegistry name)), r)

def close (n : Nat) (r : Registry) : Registry :=
  { r with instances := r.instances.modify n Client.close }

/-- Take a name out and close its client. -/
def takeOut (name : String) (r : Registry) : Registry :=
  match Table.get? name r.clients with
  | some n => close n { r with clients := Table.erase name r.clients }
  | none => r

/-- Take out every name that is there now, one after the other. -/
def reset (r : Registry) : Registry := (Table.keys r.clients).foldl (fun r name => takeOut name r) r

/-- Run an action on one client. -/
def run {σ α : Type} (n : Nat) (act : Act σ α) (metrics : Metrics) (world : σ) (r : Registry) :
    Option (Except Breach α × Metrics × σ × Registry) :=
  (r.instances[n]?).map fun c =>
    let (result, s) := StateT.run act.run { client := c, metrics := metrics, world := world }
    (result, s.metrics, s.world, { r with instances := r.instances.set n s.client })

end Registry
end Courier
