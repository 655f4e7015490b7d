import Courier.Endpoint
/-!
Resolving services with a memory.  Each name has a slot, in which an endpoint is kept for a while.
Callers of one name queue for its slot, so that one lookup serves them all; lookups that fail are not
remembered.  Invalidating a name takes its slot away: later callers get a new one, while those that
queue for the old one keep it.  This is `CachedResolver` with `resolve`, `slot` and `invalidate`, cut
into the moments at which another caller may come in between.
-/
namespace Courier

structure Resolved where
  endpoint : Endpoint
  resolvedAt : Instant
  deriving DecidableEq, Repr

structure Lookup where
  caller : Nat
  descriptor : Descriptor
  deriving DecidableEq, Repr

structure Slot where
  entry : Option Resolved := none
  /-- The lookup under way, which holds the slot. -/
  busy : Option Lookup := none
  queue : List Lookup := []
  deriving DecidableEq, Repr

structure Resolver where
  ttl : Duration
  now : Instant := 0
  slots : List Slot := []
  /-- The slot of each name. -/
  names : Table Nat := []
  /-- Lookups started so far. -/
  lookups : Nat := 0
  deriving Repr

abbrev Resolution := Except ResolveError Endpoint

inductive ResolverEvent where
  /-- A caller joins the queue of its name's slot. -/
  | arrive (lookup : Lookup)
  /-- The first in the queue of a slot is served. -/
  | serve (slot : Nat)
  /-- The lookup that holds a slot ends. -/
  | finish (slot : Nat) (result : Resolution)
  /-- A caller gives up. -/
  | leave (caller : Nat)
  | invalidate (name : String)
  | pass (d : Duration)

namespace Slot

def fresh? (ttl : Duration) (now : Instant) (s : Slot) : Option Endpoint :=
  match s.entry with
  | some r => if (Duration.elapsed r.resolvedAt now).lt ttl then some r.endpoint else none
  | none => none

/-- Keep what was found; a failure changes nothing. -/
def keep (now : Instant) (s : Slot) : Resolution → Slot
  | .ok e => { s with entry := some ⟨e, now⟩, busy := none }
  | .error _ => { s with busy := none }

def leave (caller : Nat) (s : Slot) : Slot :=
  { s with busy := s.busy.filter fun l => l.caller != caller
           queue := s.queue.filter fun l => l.caller != caller }

end Slot

namespace Resolver

/-- The slot of a name, made when there is none. -/
def slotOf (name : String) (r : Resolver) : Nat × Resolver :=
  match Table.get? name r.names with
  | some n => (n, r)
  | none =>
    (r.slots.length,
      { r with slots := r.slots ++ [{}], names := Table.insert name r.slots.length r.names })

/-- The state after an event, and whom it answered. -/
def step (r : Resolver) : ResolverEvent → Resolver × List (Nat × Resolution)
  | .arrive l =>
    let (n, r') := slotOf l.descriptor.name r
    ({ r' with slots := r'.slots.modify n fun s => { s with queue := s.queue ++ [l] } }, [])
  | .serve n =>
    match r.slots[n]? with
    | some ⟨entry, none, l :: rest⟩ =>
      match Slot.fresh? r.ttl r.now ⟨entry, none, rest⟩ with
      | some e => ({ r with slots := r.slots.set n ⟨entry, none, rest⟩ }, [(l.caller, .ok e)])
      | none =>
        ({ r with slots := r.slots.set n ⟨entry, some l, rest⟩, lookups := r.lookups + 1 }, [])
    | _ => (r, [])
  | .finish n result =>
    match r.slots[n]? with
    | some s =>
      match s.busy with
      | some l => ({ r with slots := r.slots.set n (s.keep r.now result) }, [(l.caller, result)])
      | none => (r, [])
    | none => (r, [])
  | .leave caller => ({ r with slots := r.slots.map (Slot.leave caller) }, [])
  | .invalidate name => ({ r with names := Table.erase name r.names }, [])
  | .pass d => ({ r with now := r.now + d.nanos }, [])

/-- Slots in which somebody can be served. -/
def ready (r : Resolver) : List Nat :=
  r.slots.zipIdx.filterMap fun e =>
    if e.1.busy.isNone && !e.1.queue.isEmpty then some e.2 else none

/-- Slots with a lookup under way, each with its descriptor. -/
def underWay (r : Resolver) : List (Nat × Descriptor) :=
  r.slots.zipIdx.filterMap fun e => e.1.busy.map fun l => (e.2, l.descriptor)

/-- Apply events in turn. -/
def steps (r : Resolver) (events : List ResolverEvent) : Resolver × List (Nat × Resolution) :=
  events.foldl (fun acc e =>
    let (r', answers) := step acc.1 e
    (r', acc.2 ++ answers)) (r, [])

/-- Serve all queues to their end.  Lookups in different slots run side by side, and each takes
`delay`. -/
def drain (inner : Descriptor → Resolution) (delay : Duration) :
    Nat → Resolver → Resolver × List (Nat × Resolution)
  | 0, r => (r, [])
  | fuel + 1, r =>
    match r.ready with
    | n :: ns =>
      let (r', answers) := steps r ((n :: ns).map .serve)
      let (r'', more) := drain inner delay fuel r'
      (r'', answers ++ more)
    | [] =>
      match r.underWay with
      | [] => (r, [])
      | found =>
        let (r', answers) :=
          steps { r with now := r.now + delay.nanos } (found.map fun f => .finish f.1 (inner f.2))
        let (r'', more) := drain inner delay fuel r'
        (r'', answers ++ more)

/-- Let callers with these descriptors arrive at once and serve them all; the answers are in the
order of the descriptors. -/
def resolveAll (inner : Descriptor → Resolution) (delay : Duration) (ds : List Descriptor)
    (r : Resolver) : Resolver × List Resolution :=
  let arrivals := ds.zipIdx.map fun d => ResolverEvent.arrive ⟨d.2, d.1⟩
  let (arrived, _) := steps r arrivals
  let (done, answers) := drain inner delay (2 * ds.length) arrived
  (done, (List.range ds.length).filterMap fun n =>
    (answers.find? fun a => a.1 == n).map Prod.snd)

def resolve (inner : Descriptor → Resolution) (d : Descriptor) (r : Resolver) :
    Resolver × Resolution :=
  match resolveAll inner .zero [d] r with
  | (r', [answer]) => (r', answer)
  | (r', _) => (r', inner d)

end Resolver
end Courier
