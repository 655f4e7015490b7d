import Courier.Scope
/-!
Scopes side by side.  A schedule is a list of turns, each of which concerns one scope: a task is
started, the scope is cancelled or dropped, or one of its tasks is polled.  The turns are calls of
`spawn` and `cancel`, the drop of a `RequestScope`, and polls of what `spawn` started.
-/
namespace Courier

inductive ScopeTurn (σ : Type) where
  | spawn (scope : Nat) (start : Context → σ)
  | cancel (scope : Nat)
  | drop (scope : Nat)
  | poll (scope child : Nat) (look : Look)

namespace Scope

variable {σ α : Type}

/-- A scope that was dropped starts no more tasks. -/
def turn (work : σ → Poll σ α) (scopes : List (Scope σ α)) : ScopeTurn σ → List (Scope σ α)
  | .spawn i start => scopes.modify i fun s => if s.dropped then s else s.spawn start
  | .cancel i => scopes.modify i cancel
  | .drop i => scopes.modify i drop
  | .poll i n look => scopes.modify i fun s => s.poll look work n

/-- The scopes after every turn of a schedule. -/
def run (work : σ → Poll σ α) (scopes : List (Scope σ α)) (schedule : List (ScopeTurn σ)) :
    List (Scope σ α) :=
  schedule.foldl (turn work) scopes

end Scope
end Courier
