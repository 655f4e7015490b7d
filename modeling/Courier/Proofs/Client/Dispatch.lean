import Courier.Proofs.Client.Stage
import Courier.Proofs.Metrics
/-!
A dispatch as a whole.  It asks whether the service is serving, and then runs one stage or two; each law
here says what one of these parts leaves behind.  `Keeping` names what the surroundings must not change
while nothing is sent: the relation then holds from one end of the health gate to the other.
-/
namespace Courier.Client

variable {σ : Type}

/-- No act changes these parts of a client. -/
structure Alike (a b : Client) : Prop where
  descriptor : b.descriptor = a.descriptor
  retry : b.retry = a.retry
  requestTimeout : b.requestTimeout = a.requestTimeout
  probeTimeout : b.probeTimeout = a.probeTimeout
  messageLimit : b.messageLimit = a.messageLimit
  closed : b.closed = a.closed

theorem Alike.refl (a : Client) : Alike a a := ⟨rfl, rfl, rfl, rfl, rfl, rfl⟩

theorem Alike.trans {a b c : Client} (h : Alike a b) (h' : Alike b c) : Alike a c :=
  ⟨h'.descriptor.trans h.descriptor, h'.retry.trans h.retry,
    h'.requestTimeout.trans h.requestTimeout, h'.probeTimeout.trans h.probeTimeout,
    h'.messageLimit.trans h.messageLimit, h'.closed.trans h.closed⟩

theorem Alike.name {a b : Client} (h : Alike a b) : b.name = a.name := by
  simp only [Client.name, h.descriptor]

/-- Nothing is counted but probes. -/
def Uncounted (m m' : Metrics) : Prop :=
  ∀ name labels, '\x7b' ∉ name.toList → name ≠ "health_probes_total" →
    Metrics.value name labels m' = Metrics.value name labels m

theorem countProbe_uncounted (target : String) (h : HealthStatus) (m : Metrics) :
    Uncounted m (Health.Cache.countProbe target h m) := by
  intro name labels plain other
  exact Metrics.value_count_of_name (by decide) plain other m

/-- The client stays what it is and the world moves along `R`. -/
structure Along (R : σ → σ → Prop) (s s' : Session σ) : Prop where
  client : Alike s.client s'.client
  world : R s.world s'.world
  counts : Uncounted s.metrics s'.metrics

/-- Resolving a service moves the world along `R`. -/
structure Resolving (w : Surroundings σ) (R : σ → σ → Prop) : Prop where
  refl : ∀ x, R x x
  trans : ∀ {x y z}, R x y → R y z → R x z
  resolve : ∀ d x, R x (w.resolve d x).2

/-- Whatever is asked of these surroundings short of sending, their world moves along `R`. -/
structure Keeping (w : Surroundings σ) (R : σ → σ → Prop) : Prop extends Resolving w R where
  probe : ∀ p, w.probe = some p → ∀ n x, R x (p n x).2
  check : ∀ a d x, R x (w.check a d x).2

/-- Sending over one transport moves the world along `R` too. -/
structure Conveying (w : Surroundings σ) (R : σ → σ → Prop) (t : Transport) : Prop
    extends Resolving w R where
  send : match t with
    | .http => ∀ sub x, R x (w.submit sub x).2
    | .tunnel => ∀ g x, R x (w.carry g x).2

namespace Along

variable {R : σ → σ → Prop} {w : Surroundings σ}

theorem trans (keep : Keeping w R) {a b c : Session σ} (h : Along R a b) (h' : Along R b c) :
    Along R a c :=
  ⟨h.client.trans h'.client, keep.trans h.world h'.world,
    fun name labels plain other =>
      (h'.counts name labels plain other).trans (h.counts name labels plain other)⟩

/-- The world stays while the client changes beside the point. -/
theorem ofClient (keep : Keeping w R) {s s' : Session σ} (client : Alike s.client s'.client)
    (world : s'.world = s.world) (metrics : s'.metrics = s.metrics) : Along R s s' :=
  ⟨client, world ▸ keep.refl _, fun _ _ _ _ => by rw [metrics]⟩

/-- The client stays while the world moves. -/
theorem ofWorld {s : Session σ} {x : σ} (moved : R s.world x) : Along R s { s with world := x } :=
  ⟨Alike.refl _, moved, fun _ _ _ _ => rfl⟩

theorem bind (keep : Keeping w R) {α β : Type} {a : Act σ α} {f : α → Act σ β}
    (first : Act.Within (Along R) a) (rest : ∀ x, Act.Within (Along R) (f x)) :
    Act.Within (Along R) (a >>= f) := by
  have joined : ∀ a b c, Along R a b → Along R b c → Along R a c := fun _ _ _ => trans keep
  exact Act.Within.bind joined first rest

end Along

section Gate

variable {R : σ → σ → Prop} {w : Surroundings σ} (keep : Keeping w R)
include keep

theorem resolve_along : Act.Within (Along R) (resolve w) := by
  intro s
  rw [resolve_on]
  exact Along.ofWorld (keep.resolve _ _)

theorem openChannel_along (address : String) :
    Act.Within (Along R) (openChannel (σ := σ) address) := by
  intro s
  rw [openChannel_on]
  split
  · exact Along.ofClient keep ⟨rfl, rfl, rfl, rfl, rfl, rfl⟩ rfl rfl
  · exact Along.ofClient keep (Alike.refl _) rfl rfl

theorem check_along : Act.Within (Along R) (check w) := by
  have still : ∀ (h : HealthStatus), Act.Within (Along R) (pure h : Act σ HealthStatus) :=
    fun h s => Along.ofClient keep (Alike.refl _) rfl rfl
  refine Along.bind keep (resolve_along keep) fun found => ?_
  cases found with
  | error f => exact still .unknown
  | ok e =>
    refine Along.bind keep (openChannel_along keep e.tunnelAddress) fun channel => ?_
    cases channel with
    | error f => exact still .unknown
    | ok _ =>
      refine Along.bind keep (fun s => Along.ofClient keep (Alike.refl _) rfl rfl) fun c => ?_
      dsimp only
      cases Rpc.Deadline.write? c.probeTimeout with
      | none => exact fun s => Along.ofClient keep (Alike.refl _) rfl rfl
      | some _ =>
        refine Along.bind keep (fun s => ?_) fun answer => still answer.status
        exact Along.ofWorld (keep.check _ _ _)

theorem probe_along : Act.Within (Along R) (probe w) := by
  intro s
  unfold probe
  cases scripted : w.probe with
  | none => exact check_along keep s
  | some p => exact Along.ofWorld (keep.probe p scripted _ _)

theorem status_along : Act.Within (Along R) (status w) := by
  intro s
  unfold status
  rw [Act.on_bind_ok (Act.on_client s), Act.on_bind_ok (Act.on_ask _ s)]
  cases s.client.health.fresh? (w.now s.world) with
  | some h => exact Along.ofClient keep (Alike.refl _) rfl rfl
  | none =>
    refine Along.bind keep (probe_along keep) (fun h => ?_) s
    exact fun s => ⟨⟨rfl, rfl, rfl, rfl, rfl, rfl⟩, keep.refl _, countProbe_uncounted _ h _⟩

/-- Asking whether the service is serving sends nothing of the request. -/
theorem isServing_along : Act.Within (Along R) (isServing w) := by
  unfold isServing
  exact Along.bind keep (status_along keep) fun h s => Along.ofClient keep (Alike.refl _) rfl rfl

end Gate

/-! ### Stages -/

/-- A stage leaves the counts alone, and all of the client that matters to the next stage. -/
structure Staged (R : σ → σ → Prop) (s s' : Session σ) : Prop where
  client : Alike s.client s'.client
  world : R s.world s'.world
  metrics : s'.metrics = s.metrics

section Stages

variable {R : σ → σ → Prop} {w : Surroundings σ}

theorem Staged.trans (move : Resolving w R) {a b c : Session σ} (h : Staged R a b)
    (h' : Staged R b c) : Staged R a c :=
  ⟨h.client.trans h'.client, move.trans h.world h'.world, h'.metrics.trans h.metrics⟩

theorem Prepared.staged (move : Resolving w R) {context : Context} {r : Request} {s s' : Session σ}
    {result : Except Fault Call} (h : Prepared w context r s result s') : Staged R s s' := by
  have moved : ∀ {x y : σ} {d : Descriptor} {a : Resolution}, w.resolve d x = (a, y) → R x y := by
    intro x y d a found
    have step := move.resolve d x
    rwa [found] at step
  cases h with
  | shut closed => exact ⟨Alike.refl _, move.refl _, rfl⟩
  | refused opened rejected => exact ⟨Alike.refl _, move.refl _, rfl⟩
  | lost opened valid found => exact ⟨Alike.refl _, moved found, rfl⟩
  | ready opened valid found => exact ⟨⟨rfl, rfl, rfl, rfl, rfl, rfl⟩, moved found, rfl⟩

theorem sendTunnel_staged (move : Conveying w R .tunnel) (c : Call) :
    Act.Within (Staged R) (sendTunnel w c) := by
  intro s
  rw [sendTunnel_on]
  split
  · split
    · exact ⟨⟨rfl, rfl, rfl, rfl, rfl, rfl⟩, move.refl _, rfl⟩
    · exact ⟨⟨rfl, rfl, rfl, rfl, rfl, rfl⟩, move.send _ _, rfl⟩
  · exact ⟨Alike.refl _, move.refl _, rfl⟩

theorem sendHttp_staged (move : Conveying w R .http) (c : Call) :
    Act.Within (Staged R) (sendHttp w c) := by
  intro s
  rw [sendHttp_on]
  split
  · exact ⟨⟨rfl, rfl, rfl, rfl, rfl, rfl⟩, move.refl _, rfl⟩
  · exact ⟨⟨rfl, rfl, rfl, rfl, rfl, rfl⟩, move.send _ _, rfl⟩

/-- What every attempt keeps, any number of attempts keeps. -/
theorem retryFrom_within {S : Session σ → Session σ → Prop}
    (trans : ∀ a b c, S a b → S b c → S a c) {attempt : Nat → Act σ Outcome}
    (each : ∀ n, Act.Within S (attempt n)) (left : Nat) :
    ∀ n, Act.Within S (retryFrom attempt n left) := by
  induction left with
  | zero => exact fun n => each n
  | succ left ih =>
    intro n s
    have first := each n s
    unfold retryFrom
    rw [Act.on_bind]
    cases made : Act.on (attempt n) s with
    | mk outcome s' =>
      rw [made] at first
      cases outcome with
      | error b => exact first
      | ok o =>
        cases again : isRetryable o with
        | true =>
          simp only [again, if_true]
          exact trans _ _ _ first (ih (n + 1) s')
        | false =>
          simp only [again, Bool.false_eq_true, if_false]
          exact first

theorem attempts_staged {t : Transport} (move : Conveying w R t) (policy : RetryPolicy) (c : Call) :
    Act.Within (Staged R) (attempts w t policy c) := by
  cases t with
  | tunnel => exact sendTunnel_staged move c
  | http =>
    have trans : ∀ a b c : Session σ, Staged R a b → Staged R b c → Staged R a c :=
      fun _ _ _ h h' => h.trans move.toResolving h'
    exact retryFrom_within trans (fun _ => sendHttp_staged move c) _ 1

theorem send_staged {t : Transport} (move : Conveying w R t) (context : Context) (r : Request) :
    Act.Within (Staged R) (send w t context r) := by
  intro s
  obtain ⟨f, s', checks, sent⟩ | ⟨c, s', checks, sent⟩ := send_cases w t context r s
  · rw [sent]
    exact checks.staged move.toResolving
  · rw [sent]
    exact (checks.staged move.toResolving).trans move.toResolving
      (attempts_staged move s.client.retry c s')

end Stages

/-! ### Settling -/

/-- How a dispatch ends whose last stage came to `o`. -/
def concluded (t : Transport) (r : Request) (o : Outcome) (s : Session σ) :
    Except Breach Outcome × Session σ :=
  (.ok (handOver r.propagateError t (raise s.client.name r.propagateError o)),
    { s with metrics := countOutcome s.client.name t (raise s.client.name r.propagateError o) s.metrics })

theorem conclude_on (t : Transport) (r : Request) (o : Outcome) (s : Session σ) :
    Act.on (conclude t r o) s = concluded t r o s := by
  unfold conclude
  rw [Act.on_bind_ok (Act.on_client s)]
  rfl

section

variable (w : Surroundings σ) (context : Context) (r : Request)

/-- A dispatch over one transport, whatever the service's health. -/
def dispatchOver (w : Surroundings σ) (t : Transport) (context : Context) (r : Request) : Act σ Outcome :=
  match t with
  | .http => httpDispatch w context r
  | .tunnel => tunnelDispatch w context r

theorem dispatchOver_on (t : Transport) (s : Session σ) :
    Act.on (dispatchOver w t context r) s = match Act.on (send w t context r) s with
      | (.ok o, s') => concluded t r o s'
      | (.error b, s') => (.error b, s') := by
  have stage : dispatchOver w t context r = send w t context r >>= conclude t r := by
    cases t <;> rfl
  rw [stage, Act.on_bind]
  cases Act.on (send w t context r) s with
  | mk result s' =>
    cases result with
    | error b => rfl
    | ok o => exact conclude_on t r o s'

/-- The session in which the second stage starts. -/
def fallenBack (s : Session σ) : Session σ :=
  { s with metrics := Metrics.count fallbacksSeries [("target", s.client.name)] s.metrics }

theorem dispatch_on (s : Session σ) :
    Act.on (dispatch w context r) s = match Act.on (isServing w) s with
      | (.error b, s') => (.error b, s')
      | (.ok false, s') => Act.on (dispatchOver w .http context r) s'
      | (.ok true, s') => match Act.on (send w .tunnel context r) s' with
        | (.error b, s'') => (.error b, s'')
        | (.ok o, s'') =>
          if fallsBack o then Act.on (dispatchOver w .http context r) (fallenBack s'')
          else concluded .tunnel r o s'' := by
  unfold dispatch
  rw [Act.on_bind]
  cases Act.on (isServing w) s with
  | mk answer s' =>
    cases answer with
    | error b => rfl
    | ok served =>
      cases served with
      | false => rfl
      | true =>
        simp only [if_true]
        rw [Act.on_bind]
        cases Act.on (send w .tunnel context r) s' with
        | mk result s'' =>
          cases result with
          | error b => rfl
          | ok o =>
            cases back : fallsBack o with
            | true =>
              simp only [back, if_true]
              rfl
            | false =>
              simp only [back, Bool.false_eq_true, if_false]
              exact conclude_on .tunnel r o s''

end

/-- A client that has its token. -/
def signedIn : Client where
  descriptor := ⟨"ledger", "http", "localhost", 8000, 1000, "v1"⟩
  identity := ⟨"caller", "secret"⟩
  retry := {}
  requestTimeout := .ofSeconds 30
  probeTimeout := .ofSeconds 2
  messageLimit := 1000
  health := { ttl := .ofSeconds 5 }
  credentials := some ⟨"token", []⟩

end Courier.Client

namespace Courier

/-- The service is serving and nothing that is sent is answered. -/
def Surroundings.still : Surroundings Unit where
  now _ := 0
  clock _ := 0
  span _ := none
  resolve d x := (.ok ⟨d.name, "http", "localhost", 8000, 9000, "v1"⟩, x)
  probe := some fun _ x => (.serving, x)
  check _ _ x := (.timedOut, x)
  carry _ x := (.timedOut, x)
  submit _ x := (.timedOut, x)
  word _ := ""

end Courier
