import Courier.Health.Status
import Courier.Rpc.Status
import Courier.Table
/-!
The board on which a server publishes its health.  Each name has a latest status and a count of how
often it was published; a watcher sees the latest status whenever it has not yet seen that count.  This
is `HealthReporter` with `set_status`, on the board that `create_health_service` sets up.
-/
namespace Courier.Health

structure Entry where
  status : HealthStatus
  version : Nat
  deriving DecidableEq, Repr

structure Board where
  /-- The service whose status changes. -/
  service : String
  entries : Table Entry
  deriving Repr

structure Watcher where
  name : String
  seen : Option Nat
  deriving DecidableEq, Repr

namespace Board

/-- The name of the whole server. -/
def serverName : String := ""

def publish (name : String) (status : HealthStatus) (t : Table Entry) : Table Entry :=
  let version := match Table.get? name t with
    | some e => e.version + 1
    | none => 0
  Table.insert name ⟨status.published, version⟩ t

/-- The server and the service start out serving. -/
def create (service : String) : Board :=
  ⟨service, publish service .serving (publish serverName .serving [])⟩

def set (status : HealthStatus) (b : Board) : Board :=
  { b with entries := publish b.service status b.entries }

def check (name : String) (b : Board) : Except Rpc.Status HealthStatus :=
  match Table.get? name b.entries with
  | some e => .ok e.status
  | none => .error (.plain .notFound "service not registered")

/-- A watcher that has seen nothing yet. -/
def watch (name : String) (b : Board) : Except Rpc.Status Watcher :=
  (b.check name).map fun _ => ⟨name, none⟩

/-- The next status for a watcher, if there is one that it has not seen. -/
def next (w : Watcher) (b : Board) : Option (HealthStatus × Watcher) :=
  match Table.get? w.name b.entries with
  | some e => if w.seen == some e.version then none else some (e.status, { w with seen := some e.version })
  | none => none

end Board
end Courier.Health
