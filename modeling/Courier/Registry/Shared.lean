import Courier.Registry
/-!
Many callers of one registry.  A reset takes out the names that were there when it began, one at a time,
and others may call in between.  In which order the names come is not settled.  The turns are those of
`get`, `reset` and `shutdown` of `ServiceRegistry`.
-/
namespace Courier

structure SharedRegistry where
  registry : Registry
  /-- Resets in the order in which they began, each with the names that it has yet to take out. -/
  resets : List (List String) := []
  deriving Repr

inductive RegistryTurn where
  | get (name : String)
  | insert (name : String)
  /-- A reset begins, for which the names that are there come in this order. -/
  | beginReset (order : List String)
  /-- The n-th reset takes out its next name. -/
  | continueReset (n : Nat)
  deriving DecidableEq, Repr

/-- What a caller is told; a reset tells nothing. -/
inductive RegistryAnswer where
  | client (result : Except RegistryError Nat)
  | inserted (result : Except RegistryError Unit)
  | silent

namespace SharedRegistry

def step (s : SharedRegistry) : RegistryTurn → SharedRegistry × RegistryAnswer
  | .get name =>
    let (result, r) := s.registry.get name
    ({ s with registry := r }, .client result)
  | .insert name =>
    let (result, r) := s.registry.insert name
    ({ s with registry := r }, .inserted result)
  | .beginReset order =>
    if order.isPerm (Table.keys s.registry.clients) then
      ({ s with resets := s.resets ++ [order] }, .silent)
    else (s, .silent)
  | .continueReset n =>
    match s.resets[n]? with
    | some (name :: names) =>
      ({ registry := s.registry.takeOut name, resets := s.resets.set n names }, .silent)
    | _ => (s, .silent)

/-- A reset returns when it has no name left. -/
def isReset (n : Nat) (s : SharedRegistry) : Bool := s.resets[n]? == some []

def run (s : SharedRegistry) (turns : List RegistryTurn) : SharedRegistry :=
  turns.foldl (fun s t => (s.step t).1) s

end SharedRegistry
end Courier
