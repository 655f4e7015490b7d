import Courier.Duration
import Courier.Metrics
/-!
Calls under way on a tunnel server, in all and by peer.  Each call enters once and leaves once; a peer
is forgotten when it has been idle for a while.  This is `ConnectionTracker` with `enter`, `leave`,
`sweep` and `spawn_sweeper`.
-/
namespace Courier

structure PeerStats where
  inFlight : Nat
  served : Nat
  lastSeen : Instant
  deriving DecidableEq, Repr

structure Tracker where
  live : Nat := 0
  peers : Table PeerStats := []
  deriving Repr

namespace Tracker

def enterPeer (now : Instant) (peer : String) (peers : Table PeerStats) : Table PeerStats :=
  let stats := (Table.get? peer peers).getD ⟨0, 0, now⟩
  Table.insert peer { stats with inFlight := stats.inFlight + 1, lastSeen := now } peers

/-- A peer that was forgotten stays forgotten. -/
def leavePeer (now : Instant) (peer : String) (peers : Table PeerStats) : Table PeerStats :=
  match Table.get? peer peers with
  | some stats => Table.insert peer ⟨stats.inFlight - 1, stats.served + 1, now⟩ peers
  | none => peers

/-- A call begins; calls in process have no peer. -/
def enter (now : Instant) (peer : Option String) (t : Tracker) : Tracker where
  live := t.live + 1
  peers := match peer with
    | some p => enterPeer now p t.peers
    | none => t.peers

/-- A call ends, however it ended. -/
def leave (now : Instant) (peer : Option String) (t : Tracker) : Tracker where
  live := t.live - 1
  peers := match peer with
    | some p => leavePeer now p t.peers
    | none => t.peers

def inFlight (peer : String) (t : Tracker) : Nat :=
  match Table.get? peer t.peers with
  | some stats => stats.inFlight
  | none => 0

def connections (t : Tracker) : Nat := t.peers.length

/-- A peer is kept while it has calls under way or was seen less than `idle` ago. -/
def isActive (now : Instant) (idle : Duration) (stats : PeerStats) : Bool :=
  0 < stats.inFlight || (Duration.elapsed stats.lastSeen now).lt idle

def sweep (now : Instant) (idle : Duration) (t : Tracker) : Tracker :=
  { t with peers := t.peers.filter fun e => isActive now idle e.2 }

/-- How many peers a sweep forgets. -/
def pruned (now : Instant) (idle : Duration) (t : Tracker) : Nat :=
  t.connections - (t.sweep now idle).connections

/-- The series that shows the calls under way. -/
def liveSeries : String := "tunnel_live_tasks"

def record (t : Tracker) (m : Metrics) : Metrics := Metrics.set liveSeries [] t.live m

end Tracker

/-- A sweep that repeats on a grid of times. -/
structure Sweeper where
  every : Duration
  idle : Duration
  due : Instant
  deriving DecidableEq, Repr

namespace Sweeper

def start (now : Instant) (every idle : Duration) : Sweeper := ⟨every, idle, now + every.nanos⟩

/-- Catch up at `now`: whatever sweeps are due happen at once, and the grid is kept. -/
def run (now : Instant) (s : Sweeper) (t : Tracker) : Sweeper × Tracker :=
  if s.every.nanos = 0 || now < s.due then (s, t)
  else
    ({ s with due := s.due + ((now - s.due) / s.every.nanos + 1) * s.every.nanos },
      t.sweep now s.idle)

end Sweeper
end Courier
