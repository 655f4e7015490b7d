import Courier.Endpoint
import Courier.Listeners
/-!
One port computed twice: by the service that listens for its tunnel, from its own settings, and by whoever
calls it, from theirs.  Both take the sum of the HTTP port and an offset, and both refuse a sum that is no
port.  They agree unless the sum is 0, which both take for a port: the caller connects to it, and the service
listens somewhere else.
-/
namespace Courier

/-! ### Ports out of sums -/

theorem Settings.port?_eq_some_iff {n : Int} {p : UInt16} : port? n = some p ↔ (p.toNat : Int) = n := by
  have bound := p.toNat_lt
  unfold port?
  by_cases fits : 0 ≤ n ∧ n < 65536
  · have small : n.toNat < 65536 := by omega
    have word : (UInt16.ofNat n.toNat).toNat = n.toNat := UInt16.toNat_ofNat_of_lt small
    rw [if_pos fits, Option.some_inj, ← UInt16.toNat_inj, word]
    omega
  · rw [if_neg fits]
    exact ⟨nofun, fun same => absurd (by omega : 0 ≤ n ∧ n < 65536) fits⟩

namespace Settings

variable {s : Settings}

/-- The sum that a fixed HTTP port and the offset make. -/
def tunnelSum (s : Settings) : Int := (s.port.toNat : Int) + s.tunnelPortOffset.toInt

def tunnelRefusal (n : Int) : Failure :=
  .configuration (.message ("tunnel port " ++ toString n ++ " is out of range"))

/-- Beside a fixed HTTP port the tunnel's port is the sum, if that is a port. -/
theorem tunnelPort_fixed (fixed : s.port ≠ 0) :
    s.tunnelPort s.port = match port? s.tunnelSum with
      | some p => .ok p
      | none => .error (tunnelRefusal s.tunnelSum) := by
  unfold tunnelPort
  exact if_neg (by simpa using fixed)

theorem tunnelPort_of_zero (fixed : s.port ≠ 0) (zero : s.tunnelSum = 0) : s.tunnelPort s.port = .ok 0 := by
  have port : port? s.tunnelSum = some 0 := port?_eq_some_iff.mpr zero.symm
  rw [tunnelPort_fixed fixed, port]

/-- Listeners that are bound have the HTTP port that was asked for, and the tunnel's port too unless that is
0; then they have any other. -/
theorem listen_ports {σ : Type} {ports : Ports σ} {x y : σ} {l : Listeners} (fixed : s.port ≠ 0)
    (bound : s.listen ports x = (.ok l, y)) :
    l.httpPort = s.port ∧ ∃ p, s.tunnelPort s.port = .ok p ∧
      (p ≠ 0 → l.tunnelPort = p) ∧ (p = 0 → l.tunnelPort ≠ 0) := by
  unfold listen at bound
  cases first : ports.lend s.port x with
  | mk result x₁ =>
    rw [first] at bound
    cases result with
    | error cause => cases bound
    | ok httpPort =>
      obtain rfl := ports.asked _ _ _ _ fixed first
      dsimp only at bound
      cases port : s.tunnelPort s.port with
      | error f =>
        rw [port] at bound
        cases bound
      | ok p =>
        rw [port] at bound
        dsimp only at bound
        cases second : ports.lend p x₁ with
        | mk result x₂ =>
          rw [second] at bound
          cases result with
          | error cause => cases bound
          | ok tunnelPort =>
            cases bound
            refine ⟨rfl, p, rfl, fun asks => ports.asked _ _ _ _ asks second, ?_⟩
            rintro rfl
            exact ports.chosen _ _ _ second

end Settings

theorem Descriptor.resolve_blank {d : Descriptor} (blank : Text.trim d.host = "") :
    d.resolve = .error (.noAddress d.name) := if_pos (by simpa using blank)

/-- A descriptor that has a host resolves to the sum of its port and its offset, if that is a port. -/
theorem Descriptor.resolve_hosted {d : Descriptor} (hosted : Text.trim d.host ≠ "") :
    d.resolve = match Settings.port? (d.basePort.toNat + d.tunnelPortOffset.toInt) with
      | none => .error (.portOutOfRange d.name (d.basePort.toNat + d.tunnelPortOffset.toInt))
      | some p => .ok ⟨d.name, d.scheme, d.host, d.basePort, p, d.apiVersion⟩ := by
  unfold resolve
  exact if_neg (by simpa using hosted)

theorem Descriptor.resolve_port {d : Descriptor} {e : Endpoint} (resolved : d.resolve = .ok e) :
    (e.tunnelPort.toNat : Int) = d.basePort.toNat + d.tunnelPortOffset.toInt := by
  by_cases hosted : Text.trim d.host = ""
  · cases (resolve_blank hosted).symm.trans resolved
  · rw [resolve_hosted hosted] at resolved
    cases sum : Settings.port? (d.basePort.toNat + d.tunnelPortOffset.toInt) with
    | none =>
      rw [sum] at resolved
      cases resolved
    | some p =>
      rw [sum] at resolved
      cases resolved
      exact Settings.port?_eq_some_iff.mp sum

/-! ### Agreement -/

/-- A service with these settings and a caller with this descriptor agree on the tunnel's port. -/
inductive PortsAgree (server : Settings) (d : Descriptor) : Prop where
  /-- Both say that the sum is out of range. -/
  | outside {n : Int} (refused : server.tunnelPort server.port = .error (Settings.tunnelRefusal n))
      (unresolved : d.resolve = .error (.portOutOfRange d.name n))
  /-- Both give the same port, on which a listener can be reached; and on whatever host the service listens,
  it does so on the ports to which the caller connects. -/
  | common {e : Endpoint} (given : server.tunnelPort server.port = .ok e.tunnelPort) (resolved : d.resolve = .ok e)
      (reachable : 1 ≤ e.tunnelPort.toNat ∧ e.tunnelPort.toNat ≤ 65535)
      (bound : ∀ (σ : Type) (ports : Ports σ) (x y : σ) (l : Listeners),
        server.listen ports x = (.ok l, y) → l = ⟨e.httpPort, e.tunnelPort⟩)

variable {server caller : Settings} {name : String} {d : Descriptor}

theorem PortsAgree.hosted (h : PortsAgree server d) : Text.trim d.host ≠ "" := by
  intro blank
  have lost := Descriptor.resolve_blank blank
  cases h with
  | outside refused unresolved => cases lost.symm.trans unresolved
  | common given resolved reachable bound => cases lost.symm.trans resolved

theorem PortsAgree.sum_ne_zero (h : PortsAgree server d) (fixed : server.port ≠ 0) : server.tunnelSum ≠ 0 := by
  intro zero
  have given := Settings.tunnelPort_of_zero fixed zero
  cases h with
  | outside refused unresolved => cases given.symm.trans refused
  | @common e given' resolved reachable bound =>
    have same : 0 = e.tunnelPort := Except.ok.inj (given.symm.trans given')
    rw [← same] at reachable
    exact absurd reachable.1 (by decide)

theorem portsAgree_of_sum (fixed : server.port ≠ 0) (port : d.basePort = server.port)
    (offset : d.tunnelPortOffset = server.tunnelPortOffset) (hosted : Text.trim d.host ≠ "")
    (nonzero : server.tunnelSum ≠ 0) : PortsAgree server d := by
  have resolve := Descriptor.resolve_hosted hosted
  have given := Settings.tunnelPort_fixed fixed
  rw [port, offset] at resolve
  change d.resolve = match Settings.port? server.tunnelSum with
    | none => .error (.portOutOfRange d.name server.tunnelSum)
    | some p => _ at resolve
  cases sum : Settings.port? server.tunnelSum with
  | none =>
    rw [sum] at resolve given
    exact .outside given resolve
  | some p =>
    rw [sum] at resolve given
    have value := Settings.port?_eq_some_iff.mp sum
    have bound := p.toNat_lt
    refine .common given resolve ⟨?_, ?_⟩ fun σ ports x y l listens => ?_
    · change 1 ≤ p.toNat
      omega
    · change p.toNat ≤ 65535
      omega
    · obtain ⟨http, q, asked, same, _⟩ := Settings.listen_ports fixed listens
      obtain rfl := Except.ok.inj (given.symm.trans asked)
      have some_port : p ≠ 0 := by
        rintro rfl
        exact nonzero value.symm
      cases l
      rw [Listeners.mk.injEq]
      exact ⟨http, same some_port⟩

/-- A service on a fixed port and a caller whose descriptor has that port and the same offset agree on the
tunnel's port if and only if the descriptor has a host and the sum is not 0.  If the sum is 0 the service never
listens on the port to which the caller connects. -/
theorem portsAgree_iff (fixed : server.port ≠ 0) (port : (Descriptor.ofSettings name caller).basePort = server.port)
    (offset : (Descriptor.ofSettings name caller).tunnelPortOffset = server.tunnelPortOffset) :
    (PortsAgree server (Descriptor.ofSettings name caller) ↔
      Text.trim (Descriptor.ofSettings name caller).host ≠ "" ∧ server.tunnelSum ≠ 0) ∧
    (server.tunnelSum = 0 → ∀ (σ : Type) (ports : Ports σ) (x y : σ) (l : Listeners) (e : Endpoint),
      server.listen ports x = (.ok l, y) → (Descriptor.ofSettings name caller).resolve = .ok e →
        l.tunnelPort ≠ e.tunnelPort) := by
  refine ⟨⟨fun agree => ⟨agree.hosted, agree.sum_ne_zero fixed⟩, fun h =>
    portsAgree_of_sum fixed port offset h.1 h.2⟩, fun zero σ ports x y l e listens resolved => ?_⟩
  obtain ⟨_, p, given, _, elsewhere⟩ := Settings.listen_ports fixed listens
  obtain rfl := Except.ok.inj ((Settings.tunnelPort_of_zero fixed zero).symm.trans given)
  have sum := Descriptor.resolve_port resolved
  rw [port, offset] at sum
  have connects : e.tunnelPort = 0 := UInt16.toNat_inj.mp (Int.ofNat_inj.mp (sum.trans zero))
  rw [connects]
  exact elsewhere rfl

/-- A host on which nothing is taken. -/
def Ports.vacant : Ports Unit where
  lend p x := (.ok (if p = 0 then 49152 else p), x)
  asked := by
    rintro p x q y asks ⟨⟩
    exact if_neg asks
  chosen := by
    rintro x q y ⟨⟩
    decide

/-- A caller with an override for the service. -/
def overriding : Settings where
  services := [("ledger", ⟨some "localhost", some 9000, none, some (-80)⟩)]

/-- The override leads the caller to where the service listens. -/
theorem override_ports_agree :
    let server : Settings := { port := 9000, tunnelPortOffset := -80 }
    server.port ≠ 0 ∧ PortsAgree server (Descriptor.ofSettings "ledger" overriding) ∧
      (server.listen .vacant ()).1.toOption = some ⟨9000, 8920⟩ := by
  intro server
  have fixed : server.port ≠ 0 := by decide
  exact ⟨fixed, (portsAgree_iff fixed rfl rfl).1.mpr ⟨by decide, by decide⟩, by decide⟩

/-- An offset that undoes the port is not refused. -/
theorem undone_port_disagrees :
    ¬ ∀ (server caller : Settings) (name : String), server.port ≠ 0 →
      (Descriptor.ofSettings name caller).basePort = server.port →
      (Descriptor.ofSettings name caller).tunnelPortOffset = server.tunnelPortOffset →
        PortsAgree server (Descriptor.ofSettings name caller) := by
  intro all
  have fixed : ({ tunnelPortOffset := -8080 } : Settings).port ≠ 0 := by decide
  have agree := all { tunnelPortOffset := -8080 } { tunnelPortOffset := -8080 } "ledger" fixed rfl rfl
  exact agree.sum_ne_zero fixed (by decide)

/-- The caller would connect to port 0. -/
example : (Settings.listen .vacant { tunnelPortOffset := -8080 } ()).1.toOption = some ⟨8080, 49152⟩ := by
  decide

end Courier
