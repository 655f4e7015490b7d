import Courier.Context
import Courier.Duration
/-!
Request scopes.  A scope owns the context of one inbound request and the tasks started for it.  Every
task gets a copy of the context of its own; when the scope is cancelled or dropped, tasks that are not
done yet end without a value, and so do tasks that are started later.  This is `RequestScope` with
`fork`, `spawn`, `cancel` and `cancellation_token`.
-/
namespace Courier

/-- One step of a task: it waits on, or is done, or fails. -/
inductive Poll (σ α : Type) where
  | pending (state : σ)
  | ready (value : α)
  | failed
  deriving Repr

inductive Child (σ α : Type) where
  | running (state : σ)
  | done (value : α)
  | failed
  | cancelled
  deriving Repr

/-- What a child looks at first when it is polled: the signal of its scope, or its own work. -/
inductive Look where
  | signal | work
  deriving DecidableEq, Repr

structure Scope (σ α : Type) where
  context : Context
  cancelled : Bool := false
  dropped : Bool := false
  /-- Children in the order in which they were started. -/
  children : List (Child σ α) := []
  /-- Tokens handed out, and whether each is cancelled. -/
  tokens : List Bool := []
  deriving Repr

namespace Scope

variable {σ α : Type}

/-- A copy of the context. -/
def fork (s : Scope σ α) : Context := s.context

/-- Start a task on a copy of the context. -/
def spawn (start : Context → σ) (s : Scope σ α) : Scope σ α :=
  { s with children := s.children ++ [.running (start s.fork)] }

def cancel (s : Scope σ α) : Scope σ α :=
  { s with cancelled := true, tokens := s.tokens.map fun _ => true }

/-- Dropping a scope cancels it. -/
def drop (s : Scope σ α) : Scope σ α := { s.cancel with dropped := true }

/-- A token is cancelled with its scope. -/
def token (s : Scope σ α) : Scope σ α := { s with tokens := s.tokens ++ [s.cancelled] }

def cancelToken (n : Nat) (s : Scope σ α) : Scope σ α := { s with tokens := s.tokens.set n true }

/-- What becomes of a child that is polled.  Work that is done counts even after the signal, if the
child looks at its work first. -/
def advance (cancelled : Bool) (look : Look) (step : σ → Poll σ α) : Child σ α → Child σ α
  | .running state =>
    if cancelled && look == .signal then .cancelled
    else
      match step state with
      | .pending next => if cancelled then .cancelled else .running next
      | .ready value => .done value
      | .failed => .failed
  | other => other

/-- Poll one child. -/
def poll (look : Look) (step : σ → Poll σ α) (n : Nat) (s : Scope σ α) : Scope σ α :=
  { s with children := s.children.modify n (advance s.cancelled look step) }

/-- How a child ended: `none` while it runs, and inside, nothing for a cancelled one. -/
def outcome? (n : Nat) (s : Scope σ α) : Option (Except Unit (Option α)) :=
  match s.children[n]? with
  | some (.done value) => some (.ok (some value))
  | some .cancelled => some (.ok none)
  | some .failed => some (.error ())
  | _ => none

end Scope

/-- A task that waits and then changes its copy of the context. -/
structure Sleeper where
  context : Context
  due : Instant
  correlationId : Option String
  user : Fields
  fails : Bool
  deriving Repr

namespace Sleeper

def adjust (correlationId : Option String) (user : Fields) (c : Context) : Context :=
  { c with correlationId := correlationId.getD c.correlationId
           callerUser := user.foldl (fun t e => Table.insert e.1 e.2 t) c.callerUser }

def step (now : Instant) (t : Sleeper) : Poll Sleeper Context :=
  if now < t.due then .pending t
  else if t.fails then .failed
  else .ready (adjust t.correlationId t.user t.context)

def dueOf? : Child Sleeper Context → Option Instant
  | .running t => some t.due
  | _ => none

/-- Running children in the order in which they are due; of equals, the first started comes first. -/
def order (s : Scope Sleeper Context) : List Nat :=
  let numbered := s.children.zipIdx.filterMap fun e => (dueOf? e.1).map fun due => (due, e.2)
  (numbered.mergeSort fun a b => a.1 ≤ b.1).map Prod.snd

/-- Poll every child at `now`. -/
def settle (now : Instant) (s : Scope Sleeper Context) : Scope Sleeper Context :=
  (order s).foldl (fun s n => s.poll .signal (step now) n) s

end Sleeper
end Courier
