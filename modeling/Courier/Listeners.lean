import Courier.Settings
/-!
The listeners of a service, one for HTTP and one for the tunnel beside it.  `listen` is what `build` of
`Application` binds.
-/
namespace Courier

/-- A host that lends ports to listeners, or refuses.  Whoever asks for a port gets that one; whoever asks for
port 0 leaves the choice to the host and gets another. -/
structure Ports (σ : Type) where
  lend : UInt16 → σ → Except Cause UInt16 × σ
  asked : ∀ p x q y, p ≠ 0 → lend p x = (.ok q, y) → q = p
  chosen : ∀ x q y, lend 0 x = (.ok q, y) → q ≠ 0

/-- The ports on which a service listens. -/
structure Listeners where
  httpPort : UInt16
  tunnelPort : UInt16
  deriving DecidableEq, Repr

/-- Bind both listeners; the tunnel's port follows from the one that HTTP was given. -/
def Settings.listen {σ : Type} (ports : Ports σ) (s : Settings) (x : σ) : Except Failure Listeners × σ :=
  match ports.lend s.port x with
  | (.error cause, x) => (.error (.internal cause), x)
  | (.ok httpPort, x) =>
    match s.tunnelPort httpPort with
    | .error f => (.error f, x)
    | .ok port =>
      match ports.lend port x with
      | (.error cause, x) => (.error (.internal cause), x)
      | (.ok tunnelPort, x) => (.ok ⟨httpPort, tunnelPort⟩, x)

end Courier
