import Courier.Proofs.Client.Dispatch
import Courier.Proofs.Tunnel.Hearing
/-!
How often one dispatch runs the service that it is meant for.  The service stands behind both
transports: a carriage that nothing keeps from the host goes through `Tunnel.exchange`, and a submission
arrives or does not.  What else surrounds the client is left open.  A request that is not repeated runs
the service once at most, unless the caller mishears an answer that came over the tunnel and the same
request then arrives over HTTP as well.
-/
namespace Courier

/-- A service that counts its runs. -/
def Service.counted {σ : Type} (service : Service σ) : Service (σ × Nat) := fun request x =>
  let (ending, y) := service request x.1
  (ending, (y, x.2 + 1))

def Tunnel.Host.counted {σ : Type} (host : Tunnel.Host σ) : Tunnel.Host (σ × Nat) :=
  { host with service := host.service.counted }

/-- A service as its callers reach it. -/
structure Site (ρ σ : Type) where
  /-- The clock, the resolver and the health of the service; its network is not used. -/
  around : Surroundings ρ
  host : Tunnel.Host σ
  peer : Option String
  /-- What becomes of a carriage that does not get to the host. -/
  obstacle : Tunnel.Carriage → ρ → Option Tunnel.Delivery
  /-- The request that a submission becomes, if it gets to the service. -/
  arrival : Http.Submission → ρ → Option Inbound
  /-- What the client hears of a submission and of the service's ending, if there is one. -/
  hearing : Http.Submission → Option Ending → ρ → Http.Delivery × ρ

structure Scene (ρ σ : Type) where
  outer : ρ
  tracker : Tracker
  /-- The state of the service, with the number of its runs. -/
  served : σ × Nat

namespace Scene

variable {ρ σ : Type}

def runs (x : Scene ρ σ) : Nat := x.served.2

end Scene

namespace Site

variable {ρ σ : Type} (site : Site ρ σ)

def carry (c : Tunnel.Carriage) (x : Scene ρ σ) : Tunnel.Delivery × Scene ρ σ :=
  match site.obstacle c x.outer with
  | some heard => (heard, x)
  | none =>
    let exchange :=
      Tunnel.exchange site.host.counted (site.around.now x.outer) site.peer c x.tracker x.served
    (exchange.delivery, match exchange.execution with
      | none => x
      | some e => { x with tracker := e.tracker, served := e.world })

def submit (sub : Http.Submission) (x : Scene ρ σ) : Http.Delivery × Scene ρ σ :=
  match site.arrival sub x.outer with
  | none =>
    let (heard, outer) := site.hearing sub none x.outer
    (heard, { x with outer := outer })
  | some request =>
    let (ending, served) := site.host.service.counted request x.served
    let (heard, outer) := site.hearing sub (some ending) x.outer
    (heard, { x with outer := outer, served := served })

/-- What a client of the site finds around it. -/
def surroundings : Surroundings (Scene ρ σ) where
  now x := site.around.now x.outer
  clock x := site.around.clock x.outer
  span x := site.around.span x.outer
  resolve d x :=
    let (found, outer) := site.around.resolve d x.outer
    (found, { x with outer := outer })
  probe := site.around.probe.map fun p => fun name x =>
    let (status, outer) := p name x.outer
    (status, { x with outer := outer })
  check address limit x :=
    let (ended, outer) := site.around.check address limit x.outer
    (ended, { x with outer := outer })
  carry := site.carry
  submit := site.submit
  word := site.around.word

/-- Until something is sent the service does not run. -/
theorem keeping : Client.Keeping site.surroundings fun x y => y.runs = x.runs where
  refl x := rfl
  trans h h' := h'.trans h
  resolve d x := rfl
  probe p scripted n x := by
    obtain ⟨q, _, rfl⟩ := Option.map_eq_some_iff.mp scripted
    rfl
  check a d x := rfl

/-! ### One carriage, one submission -/

/-- The request with which a carriage runs the service, if it gets that far. -/
def reached? (c : Tunnel.Carriage) (x : Scene ρ σ) : Option Inbound :=
  match site.obstacle c x.outer with
  | some _ => none
  | none => Tunnel.admitted? site.host site.peer c

/-- How the service ends a request. -/
def ending (request : Inbound) (x : Scene ρ σ) : Ending := (site.host.service request x.served.1).1

/-- The caller of a carriage takes the service's ending for a failure of the tunnel. -/
def Mishears (c : Tunnel.Carriage) (request : Inbound) (x : Scene ρ σ) : Prop :=
  Tunnel.Misheard (site.around.now x.outer) c site.host.messageLimit (site.ending request x)

theorem carry_of_not_reached {c : Tunnel.Carriage} {x : Scene ρ σ} (h : site.reached? c x = none) :
    (site.carry c x).2.runs = x.runs := by
  unfold reached? at h
  unfold carry
  cases stopped : site.obstacle c x.outer with
  | some heard => rfl
  | none =>
    rw [stopped] at h
    have turned : Tunnel.admitted? site.host.counted site.peer c = none := h
    have kept := Tunnel.exchange_of_not_admitted site.host.counted (site.around.now x.outer) site.peer c
      x.tracker x.served turned
    dsimp only
    split
    · rfl
    · next e run =>
      simp only [Scene.runs]
      rw [kept e run]

theorem carry_of_reached {c : Tunnel.Carriage} {x : Scene ρ σ} {request : Inbound}
    (h : site.reached? c x = some request) :
    (site.carry c x).2.runs = x.runs + 1 ∧
      ∀ service, Client.fallsBack ((site.carry c x).1.outcome service c.timeout) = true ↔
        site.Mishears c request x := by
  unfold reached? at h
  unfold carry
  cases stopped : site.obstacle c x.outer with
  | some heard =>
    rw [stopped] at h
    cases h
  | none =>
    rw [stopped] at h
    have let_in : Tunnel.admitted? site.host.counted site.peer c = some request := h
    obtain ⟨limit, e, _, run, world, _⟩ := Tunnel.exchange_of_admitted site.host.counted
      (site.around.now x.outer) site.peer c x.tracker x.served let_in
    refine ⟨?_, fun service => ?_⟩
    · dsimp only
      rw [run]
      simp only [Scene.runs, world]
      rfl
    · exact Tunnel.exchange_fallsBack site.host.counted _ site.peer c x.tracker x.served let_in service

theorem submit_runs (sub : Http.Submission) (x : Scene ρ σ) :
    (site.submit sub x).2.runs = x.runs + if (site.arrival sub x.outer).isSome then 1 else 0 := by
  unfold submit
  cases site.arrival sub x.outer <;> rfl

/-! ### One stage -/

variable (context : Context) (r : Request) (s : Session (Scene ρ σ))

theorem prepared_runs {result : Except Fault Call} {s' : Session (Scene ρ σ)}
    (h : Client.Prepared site.surroundings context r s result s') : s'.world.runs = s.world.runs :=
  (h.staged site.keeping.toResolving).world

/-- The tunnel's stage runs the service. -/
def TunnelRuns (c : Tunnel.Carriage) (s' : Session (Scene ρ σ)) (request : Inbound) : Prop :=
  Client.Carries site.surroundings context r s c s' ∧ site.reached? c s'.world = some request

/-- The stage of a single attempt over HTTP runs the service. -/
def HttpRuns : Prop :=
  ∃ sub s', Client.Submits site.surroundings context r s sub s' ∧
    (site.arrival sub s'.world.outer).isSome = true

theorem carries_runs {c : Tunnel.Carriage} {s' : Session (Scene ρ σ)}
    (h : Client.Carries site.surroundings context r s c s') : s'.world.runs = s.world.runs := by
  cases h with
  | intro ready usable written => exact site.prepared_runs context r s ready

theorem tunnel_runs_once {c : Tunnel.Carriage} {s' : Session (Scene ρ σ)} {request : Inbound}
    (h : site.TunnelRuns context r s c s' request) :
    ∃ o s'', Act.on (Client.send site.surroundings .tunnel context r) s = (.ok o, s'') ∧
      s''.world.runs = s.world.runs + 1 ∧
      (Client.fallsBack o = true ↔
        site.Mishears c request s'.world) := by
  obtain ⟨carries, reached⟩ := h
  obtain ⟨s'', sent, world⟩ := Client.send_tunnel_of_carries site.surroundings carries
  obtain ⟨runs, heard⟩ := site.carry_of_reached reached
  refine ⟨_, s'', sent, ?_, heard s.client.name⟩
  rw [world, ← site.carries_runs context r s carries]
  exact runs

theorem tunnel_runs_never (h : ∀ c s' request, ¬ site.TunnelRuns context r s c s' request) :
    (Act.on (Client.send site.surroundings .tunnel context r) s).2.world.runs = s.world.runs := by
  by_cases carried : ∃ c s', Client.Carries site.surroundings context r s c s'
  · obtain ⟨c, s', carries⟩ := carried
    obtain ⟨s'', sent, world⟩ := Client.send_tunnel_of_carries site.surroundings carries
    have missed : site.reached? c s'.world = none := by
      cases reached : site.reached? c s'.world with
      | none => rfl
      | some request => exact absurd ⟨carries, reached⟩ (h c s' request)
    rw [sent, world, ← site.carries_runs context r s carries]
    exact site.carry_of_not_reached missed
  · obtain ⟨result, s', checks, world⟩ := Client.send_tunnel_of_not_carries site.surroundings
      (fun c s' carries => carried ⟨c, s', carries⟩)
    rw [world]
    exact site.prepared_runs context r s checks

open Classical in
theorem http_runs (once : r.method ≠ getMethod) :
    (Act.on (Client.send site.surroundings .http context r) s).2.world.runs =
      s.world.runs + if site.HttpRuns context r s then 1 else 0 := by
  by_cases submitted : ∃ sub s', Client.Submits site.surroundings context r s sub s'
  · obtain ⟨sub, s', submits⟩ := submitted
    have before : s'.world.runs = s.world.runs := by
      cases submits with
      | intro ready fit => exact site.prepared_runs context r s ready
    rw [Client.send_http_of_submits site.surroundings once submits]
    have step := site.submit_runs sub s'.world
    have same : (site.arrival sub s'.world.outer).isSome = true ↔ site.HttpRuns context r s := by
      constructor
      · exact fun arrives => ⟨sub, s', submits, arrives⟩
      · rintro ⟨sub', t, submits', arrives⟩
        obtain ⟨rfl, rfl⟩ := submits.unique site.surroundings submits'
        exact arrives
    simp only [same, before] at step
    exact step
  · have never : ¬ site.HttpRuns context r s := by
      rintro ⟨sub, s', submits, _⟩
      exact submitted ⟨sub, s', submits⟩
    obtain ⟨result, s', checks, world⟩ := Client.send_http_of_not_submits site.surroundings once
      (fun sub s' submits => submitted ⟨sub, s', submits⟩)
    rw [world, if_neg never]
    exact site.prepared_runs context r s checks

/-! ### A whole dispatch -/

/-- An answer that came over the tunnel is misheard, and the request arrives once more. -/
inductive Repeats : Prop where
  | intro {s₁ s₂ s' : Session (Scene ρ σ)} {c : Tunnel.Carriage} {request : Inbound} {o : Outcome}
      (served : Act.on (Client.isServing site.surroundings) s = (.ok true, s₁))
      (first : site.TunnelRuns context r s₁ c s' request)
      (misheard : site.Mishears c request s'.world)
      (between : Act.on (Client.send site.surroundings .tunnel context r) s₁ = (.ok o, s₂))
      (second : site.HttpRuns context r (Client.fallenBack s₂)) : Repeats

theorem overHttp_runs :
    (Act.on (Client.dispatchOver site.surroundings .http context r) s).2.world.runs =
      (Act.on (Client.send site.surroundings .http context r) s).2.world.runs := by
  rw [Client.dispatchOver_on]
  cases Act.on (Client.send site.surroundings .http context r) s with
  | mk result s' => cases result <;> rfl

open Classical in
theorem overHttp_runs_le (once : r.method ≠ getMethod) :
    (Act.on (Client.dispatchOver site.surroundings .http context r) s).2.world.runs ≤ s.world.runs + 1 := by
  rw [overHttp_runs, http_runs site context r s once]
  split <;> omega

theorem not_repeats_of_unserved
    (other : (Act.on (Client.isServing site.surroundings) s).1 ≠ .ok true) :
    ¬ site.Repeats context r s := by
  rintro ⟨served, _, _, _, _⟩
  rw [served] at other
  exact other rfl

section

variable {s₁ : Session (Scene ρ σ)}
  (served : Act.on (Client.isServing site.surroundings) s = (.ok true, s₁))
include served

theorem not_repeats_of_not_run (never : ∀ c s' request, ¬ site.TunnelRuns context r s₁ c s' request) :
    ¬ site.Repeats context r s := by
  rintro ⟨served', first, _, _, _⟩
  rw [served] at served'
  cases served'
  exact never _ _ _ first

theorem repeats_iff {s₂ s' : Session (Scene ρ σ)} {c : Tunnel.Carriage} {request : Inbound} {o : Outcome}
    (first : site.TunnelRuns context r s₁ c s' request)
    (sent : Act.on (Client.send site.surroundings .tunnel context r) s₁ = (.ok o, s₂))
    (heard : Client.fallsBack o = true ↔
      site.Mishears c request s'.world) :
    site.Repeats context r s ↔
      Client.fallsBack o = true ∧ site.HttpRuns context r (Client.fallenBack s₂) := by
  constructor
  · rintro ⟨served', first', misheard, between, second⟩
    rw [served] at served'
    cases served'
    rw [sent] at between
    cases between
    obtain ⟨rfl, rfl⟩ := first.1.unique site.surroundings first'.1
    obtain rfl : request = _ := Option.some.inj (first.2.symm.trans first'.2)
    exact ⟨heard.mpr misheard, second⟩
  · rintro ⟨back, second⟩
    exact .intro served first (heard.mp back) sent second

end

/-- The rest of a dispatch after the tunnel's stage. -/
theorem afterTunnel_runs (once : r.method ≠ getMethod) {o : Outcome} {s₁ s₂ : Session (Scene ρ σ)}
    (served : Act.on (Client.isServing site.surroundings) s = (.ok true, s₁))
    (sent : Act.on (Client.send site.surroundings .tunnel context r) s₁ = (.ok o, s₂)) :
    (Act.on (Client.dispatch site.surroundings context r) s).2.world.runs = s₂.world.runs +
      open Classical in
      if Client.fallsBack o = true ∧ site.HttpRuns context r (Client.fallenBack s₂) then 1 else 0 := by
  rw [Client.dispatch_on, served]
  dsimp only
  rw [sent]
  dsimp only
  by_cases back : Client.fallsBack o = true
  · rw [if_pos back, overHttp_runs, site.http_runs context r (Client.fallenBack s₂) once]
    by_cases second : site.HttpRuns context r (Client.fallenBack s₂)
    · rw [if_pos second, if_pos ⟨back, second⟩]
      rfl
    · rw [if_neg second, if_neg fun both => second both.2]
      rfl
  · have stays : ¬ (Client.fallsBack o = true ∧ site.HttpRuns context r (Client.fallenBack s₂)) :=
      fun both => back both.1
    rw [if_neg back, if_neg stays]
    rfl

/-- Two runs take a tunnel that ran the service, an answer that was misheard, and a submission that
arrived. -/
theorem dispatch_repeats_iff (once : r.method ≠ getMethod) :
    s.world.runs + 1 < (Act.on (Client.dispatch site.surroundings context r) s).2.world.runs ↔
      site.Repeats context r s := by
  have gate := (Client.isServing_along site.keeping s).world
  cases answer : Act.on (Client.isServing site.surroundings) s with
  | mk served s₁ =>
    rw [answer] at gate
    dsimp only at gate
    by_cases yes : served = .ok true
    · subst yes
      by_cases ran : ∃ c s' request, site.TunnelRuns context r s₁ c s' request
      · obtain ⟨c, s', request, first⟩ := ran
        obtain ⟨o, s₂, sent, runs, heard⟩ := site.tunnel_runs_once context r s₁ first
        rw [site.afterTunnel_runs context r s once answer sent,
          site.repeats_iff context r s answer first sent heard]
        split
        · next again => simp only [again, and_self, iff_true]; omega
        · next single => simp only [single, iff_false]; omega
      · have never : ∀ c s' request, ¬ site.TunnelRuns context r s₁ c s' request :=
          fun c s' request first => ran ⟨c, s', request, first⟩
        have runs := site.tunnel_runs_never context r s₁ never
        simp only [site.not_repeats_of_not_run context r s answer never, iff_false]
        cases sent : Act.on (Client.send site.surroundings .tunnel context r) s₁ with
        | mk result s₂ =>
          rw [sent] at runs
          dsimp only at runs
          cases result with
          | ok o =>
            rw [site.afterTunnel_runs context r s once answer sent]
            split <;> omega
          | error b =>
            rw [Client.dispatch_on, answer]
            dsimp only
            rw [sent]
            dsimp only
            omega
    · have unserved : (Act.on (Client.isServing site.surroundings) s).1 ≠ .ok true := by rwa [answer]
      simp only [site.not_repeats_of_unserved context r s unserved, iff_false]
      rw [Client.dispatch_on, answer]
      cases served with
      | error b =>
        dsimp only
        omega
      | ok other =>
        cases other with
        | true => exact absurd rfl yes
        | false =>
          have single := site.overHttp_runs_le context r s₁ once
          dsimp only
          omega

/-- A request that is not repeated runs the service at most once, except where an answer is misheard and
the request arrives again.  A run over the tunnel sends the request on exactly when it is misheard. -/
theorem dispatch_runs_once_iff (once : r.method ≠ getMethod) :
    ((Act.on (Client.dispatch site.surroundings context r) s).2.world.runs ≤ s.world.runs + 1 ↔
      ¬ site.Repeats context r s) ∧
    ∀ s₁ c s' request, site.TunnelRuns context r s₁ c s' request →
      ∃ o, (Act.on (Client.send site.surroundings .tunnel context r) s₁).1 = .ok o ∧
        (Client.fallsBack o = true ↔
          site.Mishears c request s'.world) := by
  constructor
  · rw [← site.dispatch_repeats_iff context r s once]
    omega
  · intro s₁ c s' request first
    obtain ⟨o, s₂, sent, _, heard⟩ := site.tunnel_runs_once context r s₁ first
    exact ⟨o, by rw [sent], heard⟩

/-! ### A service whose body breaks off -/

/-- Nothing stands between the client and this service, which is always serving. -/
def direct (service : Service Unit) : Site Unit Unit where
  around := .still
  host := ⟨service, 1000, "boundary"⟩
  peer := none
  obstacle := fun _ _ => none
  arrival := fun sub _ => (Http.Uri.parse? "/echo").map fun uri =>
    { method := sub.method, uri := uri, headers := sub.headers, body := [] }
  hearing := fun _ _ x => (.timedOut, x)

/-- A client that has its token, before it has sent anything. -/
def beforeAny : Session (Scene Unit Unit) where
  client := .signedIn
  world := ⟨(), {}, ((), 0)⟩

/-- The head of the response is there, and then the body breaks off. -/
def breaking (detail : String) : Service Unit := fun _ x =>
  (.served { response := .json .ok (.obj []), bodyEnd := .broken detail }, x)

def posted : Request := { method := "POST", path := "echo" }

/-- Trouble that says nothing of a protocol is heard for what it is. -/
theorem quiet_break_runs_once : posted.method ≠ getMethod ∧
    (Act.on (Client.dispatch (direct (breaking "connection reset")).surroundings {} posted)
      beforeAny).2.world.runs ≤ beforeAny.world.runs + 1 := by
  have once : posted.method ≠ getMethod := by decide
  refine ⟨once, (dispatch_runs_once_iff (direct (breaking "connection reset")) {} posted beforeAny
    once).1.mpr ?_⟩
  rintro ⟨_, _, ⟨_, word, listed, found⟩, _, _⟩
  have quiet : ∀ word ∈ Rpc.Status.protocolWords,
      Text.contains (Text.lower "connection reset") word = false := by decide
  rw [quiet word listed] at found
  cases found

/-- Trouble that names the protocol is taken for the tunnel's own, and the request runs again. -/
theorem break_naming_protocol_runs_twice :
    ¬ ∀ (site : Site Unit Unit) (context : Context) (r : Request) (s : Session (Scene Unit Unit)),
      r.method ≠ getMethod →
      (Act.on (Client.dispatch site.surroundings context r) s).2.world.runs ≤ s.world.runs + 1 := by
  intro bound
  have single := bound (direct (breaking "stream error: h2 protocol error")) {} posted beforeAny
    (by decide)
  exact absurd single (by decide +kernel)

end Site
end Courier
