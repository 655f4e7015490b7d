import Courier.Health.Cache
/-!
Many readers of one health cache.  Callers queue for the cache and are served in order.  One whose
status has to be probed keeps the cache while its probe is under way, so there is at most one probe at a
time and the others find what it brought.  This is `status` of `HealthStatusCache`, cut into the moments
at which another caller may come in between.
-/
namespace Courier.Health

inductive Wish where
  | status | peek | invalidate
  deriving DecidableEq, Repr

structure Caller where
  id : Nat
  wish : Wish
  deriving DecidableEq, Repr

inductive GateAnswer where
  | status (value : HealthStatus)
  | peeked (value : Option HealthStatus)
  | invalidated
  deriving DecidableEq, Repr

structure Gate where
  cache : Cache
  now : Instant := 0
  /-- The caller whose probe is under way. -/
  probing : Option Nat := none
  queue : List Caller := []
  /-- Probes started so far. -/
  probes : Nat := 0
  deriving DecidableEq, Repr

inductive GateEvent where
  /-- A caller joins the queue. -/
  | arrive (caller : Caller)
  /-- The first in the queue is served. -/
  | serve
  /-- The probe under way ends. -/
  | finish (status : HealthStatus)
  /-- A caller gives up. -/
  | leave (id : Nat)
  | pass (d : Duration)
  deriving DecidableEq, Repr

namespace Gate

/-- Serve a caller that has the cache to itself. -/
def serve (caller : Caller) (g : Gate) : Gate × Option GateAnswer :=
  match caller.wish with
  | .peek => (g, some (.peeked g.cache.peek))
  | .invalidate => ({ g with cache := g.cache.forget }, some .invalidated)
  | .status =>
    match g.cache.fresh? g.now with
    | some s => (g, some (.status s))
    | none => ({ g with probing := some caller.id, probes := g.probes + 1 }, none)

/-- The state after an event, and whom it answered. -/
def step (g : Gate) : GateEvent → Gate × List (Nat × GateAnswer)
  | .arrive caller => ({ g with queue := g.queue ++ [caller] }, [])
  | .serve =>
    match g.probing, g.queue with
    | none, caller :: rest =>
      let (g', answer) := serve caller { g with queue := rest }
      (g', (answer.map fun a => (caller.id, a)).toList)
    | _, _ => (g, [])
  | .finish status =>
    match g.probing with
    | some id =>
      ({ g with probing := none, cache := g.cache.record status g.now }, [(id, .status status)])
    | none => (g, [])
  | .leave id =>
    ({ g with probing := if g.probing = some id then none else g.probing
              queue := g.queue.filter fun c => c.id != id }, [])
  | .pass d => ({ g with now := g.now + d.nanos }, [])

/-- Serve the queue to its end; each probe takes `delay`, and the n-th says `probe n`. -/
def drain (probe : Nat → HealthStatus) (delay : Duration) :
    Nat → Gate → Gate × List (Nat × GateAnswer)
  | 0, g => (g, [])
  | fuel + 1, g =>
    match g.probing with
    | some _ =>
      let (g', answers) := step { g with now := g.now + delay.nanos } (.finish (probe g.probes))
      let (g'', more) := drain probe delay fuel g'
      (g'', answers ++ more)
    | none =>
      match g.queue with
      | [] => (g, [])
      | _ :: _ =>
        let (g', answers) := step g .serve
        let (g'', more) := drain probe delay fuel g'
        (g'', answers ++ more)

/-- Let callers with these wishes arrive at once and serve them all. -/
def run (probe : Nat → HealthStatus) (delay : Duration) (wishes : List Wish) (g : Gate) :
    Gate × List (Nat × GateAnswer) :=
  let callers := wishes.zipIdx.map fun w => (⟨w.2, w.1⟩ : Caller)
  let arrived := callers.foldl (fun g c => (step g (.arrive c)).1) g
  drain probe delay (2 * arrived.queue.length) arrived

end Gate
end Courier.Health
