import Courier.Proofs.Client.Acts
/-!
The stages of a dispatch.  Before a transport is asked for anything the client makes the same checks for
both: it is open, the request can be written, the service resolves.  `Prepared` lists the ways in which
that ends, and `sendTunnel_on` and `sendHttp_on` say what a transport does with a call that is ready.
`Carries` and `Submits` are what comes of both together: what a stage hands to the network.
-/
namespace Courier.Client

variable {σ : Type} (w : Surroundings σ)

theorem resolve_on (s : Session σ) :
    Act.on (resolve w) s =
      (.ok (match (w.resolve s.client.descriptor s.world).1 with
        | .ok e => .ok e
        | .error e => .error (.unavailable s.client.name .resolution e.text)),
        { s with world := (w.resolve s.client.descriptor s.world).2 }) := by
  unfold resolve
  rw [Act.on_bind_ok (Act.on_client s), Act.on_bind_ok (Act.on_outside _ s)]
  cases (w.resolve s.client.descriptor s.world).1 <;> rfl

/-- The token in force: the one that was kept, or one signed now. -/
def keyOf (s : Session σ) : Credentials :=
  match s.client.credentials with
  | some k => k
  | none =>
    let issued := Token.issue s.client.identity s.client.name (w.clock s.world)
    ⟨issued.1, issued.2.fields⟩

/-- The session once the token has been signed. -/
def signedSession (s : Session σ) : Session σ :=
  { s with client := { s.client with credentials := some (keyOf w s) } }

theorem signed_on (s : Session σ) :
    Act.on (signed w) s = (.ok (keyOf w s), signedSession w s) := by
  unfold signed
  rw [Act.on_bind_ok (Act.on_client s)]
  cases h : s.client.credentials with
  | some k =>
    have key : keyOf w s = k := by simp only [keyOf, h]
    simp only [Act.on_pure, signedSession, key, ← h]
  | none =>
    simp only [keyOf, signedSession, h]
    rfl

/-- The call that a client makes of a request, once the service is resolved. -/
def outgoing (context : Context) (r : Request) (e : Endpoint) (s : Session σ) : Call where
  target := s.client.name
  request := r
  context := context
  endpoint := e
  headers := Outbound.headers context (keyOf w s).token r.hasFiles r.headers (w.span s.world)
    (Http.Date.text (w.clock s.world))
  claims := (keyOf w s).claims
  timeout := r.timeout.getD s.client.requestTimeout
  span := w.span s.world

theorem call_on (context : Context) (r : Request) (e : Endpoint) (s : Session σ) :
    Act.on (call w context r e) s = (.ok (outgoing w context r e s), signedSession w s) := by
  unfold call
  rw [Act.on_bind_ok (signed_on w s)]
  rfl

/-- How the checks before a stage end. -/
inductive Prepared (context : Context) (r : Request) (s : Session σ) :
    Except Fault Call → Session σ → Prop where
  | shut (closed : s.client.closed = true) : Prepared context r s (.error s.client.shut) s
  | refused (opened : s.client.closed = false) (rejected : r.rejectedFields ≠ []) :
      Prepared context r s (.error (.unknown s.client.name r.rejectionText)) s
  | lost {e : ResolveError} {x : σ} (opened : s.client.closed = false)
      (valid : r.rejectedFields = []) (found : w.resolve s.client.descriptor s.world = (.error e, x)) :
      Prepared context r s (.error (.unavailable s.client.name .resolution e.text))
        { s with world := x }
  | ready {e : Endpoint} {x : σ} (opened : s.client.closed = false)
      (valid : r.rejectedFields = []) (found : w.resolve s.client.descriptor s.world = (.ok e, x)) :
      Prepared context r s (.ok (outgoing w context r e { s with world := x }))
        (signedSession w { s with world := x })

/-- The attempts of one transport at a call. -/
def attempts (t : Transport) (policy : RetryPolicy) (c : Call) : Act σ Outcome :=
  match t with
  | .http => Courier.retry policy c.request.method c.request.retryCount fun _ => sendHttp w c
  | .tunnel => sendTunnel w c

/-- A stage is its checks, and then the attempts of its transport. -/
theorem send_cases (t : Transport) (context : Context) (r : Request) (s : Session σ) :
    (∃ f s', Prepared w context r s (.error f) s' ∧
      Act.on (send w t context r) s = (.ok (.error f), s')) ∨
    (∃ c s', Prepared w context r s (.ok c) s' ∧
      Act.on (send w t context r) s = Act.on (attempts w t s.client.retry c) s') := by
  unfold send
  rw [Act.on_bind_ok (Act.on_client s)]
  cases closed : s.client.closed with
  | true => exact .inl ⟨_, _, .shut closed, by simp⟩
  | false =>
    simp only [Bool.false_eq_true, if_false]
    by_cases rejected : r.rejectedFields = []
    · have valid : r.validate s.client.name = .ok () := by simp [Request.validate, rejected]
      rw [valid]
      dsimp only
      rw [Act.on_bind_ok (resolve_on w s)]
      cases found : w.resolve s.client.descriptor s.world with
      | mk result x =>
        cases result with
        | error e => exact .inl ⟨_, _, .lost closed rejected found, rfl⟩
        | ok e =>
          refine .inr ⟨_, _, .ready closed rejected found, ?_⟩
          dsimp only
          rw [Act.on_bind_ok (call_on w context r e _)]
          cases t <;> rfl
    · have invalid : r.validate s.client.name = .error (.unknown s.client.name r.rejectionText) := by
        simp [Request.validate, rejected]
      rw [invalid]
      exact .inl ⟨_, _, .refused closed rejected, by simp⟩

/-- The checks end in exactly one way. -/
theorem Prepared.unique {context : Context} {r : Request} {s a b : Session σ}
    {x y : Except Fault Call} (h : Prepared w context r s x a) (h' : Prepared w context r s y b) :
    x = y ∧ a = b := by
  cases h <;> cases h' <;> simp_all

/-! ### What each transport does -/

/-- A channel is kept for this address, or can be opened to it. -/
def Openable (c : Client) (address : String) : Prop :=
  c.channel = some address ∨ (Http.Uri.parse? address).isSome = true

instance (c : Client) (address : String) : Decidable (Openable c address) :=
  inferInstanceAs (Decidable (_ ∨ _))

/-- The session once its channel leads to an address. -/
def connected (s : Session σ) (address : String) : Session σ :=
  { s with client := { s.client with channel := some address } }

def misaddressed (c : Client) : Fault := .unavailable c.name .resolution "invalid URI"

theorem openChannel_on (address : String) (s : Session σ) :
    Act.on (openChannel address) s =
      if Openable s.client address then (.ok (.ok ()), connected s address)
      else (.ok (.error (misaddressed s.client)), s) := by
  unfold openChannel
  rw [Act.on_bind_ok (Act.on_client s)]
  by_cases kept : s.client.channel = some address
  · have same : connected s address = s := by simp only [connected, ← kept]
    simp [kept, Openable, same]
  · have other : (s.client.channel == some address) = false := by simp [kept]
    cases parsed : Http.Uri.parse? address with
    | none => simp [other, kept, parsed, Openable, misaddressed]
    | some u =>
      have usable : Openable s.client address := .inr (by simp [parsed])
      rw [if_pos usable, other]
      rfl

/-- One call over the tunnel: no channel, no way to write the deadline, or one carriage. -/
theorem sendTunnel_on (c : Call) (s : Session σ) :
    Act.on (sendTunnel w c) s =
      if Openable s.client c.endpoint.tunnelAddress then
        match c.carriage? s.client.messageLimit with
        | none => (.error .deadlineTooLong, connected s c.endpoint.tunnelAddress)
        | some g => (.ok ((w.carry g s.world).1.outcome c.target c.timeout),
            { connected s c.endpoint.tunnelAddress with world := (w.carry g s.world).2 })
      else (.ok (.error (misaddressed s.client)), s) := by
  unfold sendTunnel
  by_cases usable : Openable s.client c.endpoint.tunnelAddress
  · have opened : Act.on (openChannel c.endpoint.tunnelAddress) s =
        (.ok (.ok ()), connected s c.endpoint.tunnelAddress) := by
      rw [openChannel_on, if_pos usable]
    rw [Act.on_bind_ok opened, if_pos usable]
    dsimp only
    rw [Act.on_bind_ok (Act.on_client _)]
    have limit : (connected s c.endpoint.tunnelAddress).client.messageLimit = s.client.messageLimit :=
      rfl
    rw [limit]
    cases c.carriage? s.client.messageLimit with
    | none => rfl
    | some g => rfl
  · have failed : Act.on (openChannel c.endpoint.tunnelAddress) s =
        (.ok (.error (misaddressed s.client)), s) := by
      rw [openChannel_on, if_neg usable]
    rw [Act.on_bind_ok failed, if_neg usable]
    rfl

/-- Why a call cannot be submitted over HTTP, if it cannot. -/
def unfit? (c : Call) : Option Fault :=
  match if c.request.hasFiles then Call.unfitFile? c.request else none with
  | some file => some (.unknown c.target
      ("invalid content type for " ++ file.name ++ ": " ++ w.word .badMediaType))
  | none =>
    if Http.Url.isUsable c.submission.url then none
    else some (.unknown c.target (w.word .badAddress))

/-- The session once it has a pool. -/
def withPool (s : Session σ) : Session σ := { s with client := { s.client with pooled := true } }

/-- One attempt over HTTP: a fault of the client's own, or one submission. -/
theorem sendHttp_on (c : Call) (s : Session σ) :
    Act.on (sendHttp w c) s =
      match unfit? w c with
      | some f => (.ok (.error f), withPool s)
      | none => (.ok ((w.submit c.submission s.world).1.outcome c.target c.timeout),
          { withPool s with world := (w.submit c.submission s.world).2 }) := by
  unfold sendHttp unfit?
  rw [Act.on_bind_ok (Act.on_modifyClient _ s)]
  cases (if c.request.hasFiles then Call.unfitFile? c.request else none) with
  | some file => rfl
  | none =>
    by_cases usable : Http.Url.isUsable c.submission.url
    · simp only [usable, if_true]
      rfl
    · simp only [usable]
      rfl

/-- Only what may be repeated is attempted more than once. -/
theorem attempts_of_not_get (t : Transport) (policy : RetryPolicy) (c : Call)
    (once : c.request.method ≠ getMethod) :
    attempts w t policy c = match t with
      | .http => sendHttp w c
      | .tunnel => sendTunnel w c := by
  cases t with
  | tunnel => rfl
  | http =>
    have single : policy.attempts c.request.method c.request.retryCount = 1 := by
      simp [RetryPolicy.attempts, once]
    simp only [attempts, Courier.retry, single]
    rfl

/-! ### What a stage hands over -/

variable {context : Context} {r : Request} {s s' : Session σ}

theorem Prepared.request {c : Call} (h : Prepared w context r s (.ok c) s') :
    c.request = r ∧ c.target = s.client.name := by
  cases h
  exact ⟨rfl, rfl⟩

/-- The tunnel's stage hands this carriage over, with the session in the second place. -/
inductive Carries (context : Context) (r : Request) (s : Session σ) :
    Tunnel.Carriage → Session σ → Prop where
  | intro {c : Call} {g : Tunnel.Carriage} {s' : Session σ} (ready : Prepared w context r s (.ok c) s')
      (usable : Openable s'.client c.endpoint.tunnelAddress)
      (written : c.carriage? s'.client.messageLimit = some g) : Carries context r s g s'

/-- A single attempt over HTTP submits this, with the session in the second place. -/
inductive Submits (context : Context) (r : Request) (s : Session σ) :
    Http.Submission → Session σ → Prop where
  | intro {c : Call} {s' : Session σ} (ready : Prepared w context r s (.ok c) s')
      (fit : unfit? w c = none) : Submits context r s c.submission s'

theorem Carries.unique {g h : Tunnel.Carriage} {a b : Session σ} (first : Carries w context r s g a)
    (second : Carries w context r s h b) : g = h ∧ a = b := by
  obtain ⟨ready, usable, written⟩ := first
  obtain ⟨ready', usable', written'⟩ := second
  obtain ⟨same, rfl⟩ := ready.unique w ready'
  cases same
  rw [written] at written'
  exact ⟨Option.some.inj written', rfl⟩

theorem Submits.unique {x y : Http.Submission} {a b : Session σ} (first : Submits w context r s x a)
    (second : Submits w context r s y b) : x = y ∧ a = b := by
  obtain ⟨ready, fit⟩ := first
  obtain ⟨ready', fit'⟩ := second
  obtain ⟨same, rfl⟩ := ready.unique w ready'
  cases same
  exact ⟨rfl, rfl⟩

theorem send_tunnel_of_carries {g : Tunnel.Carriage} (h : Carries w context r s g s') :
    ∃ s'', Act.on (send w .tunnel context r) s =
        (.ok ((w.carry g s'.world).1.outcome s.client.name g.timeout), s'') ∧
      s''.world = (w.carry g s'.world).2 := by
  obtain ⟨ready, usable, written⟩ := h
  rename_i c
  obtain ⟨f, a, checks, _⟩ | ⟨d, a, checks, sent⟩ := send_cases w .tunnel context r s
  · cases (checks.unique w ready).1
  · obtain ⟨same, rfl⟩ := checks.unique w ready
    cases same
    have bound : g.timeout = c.timeout := by
      simp only [Call.carriage?, Option.map_eq_some_iff] at written
      obtain ⟨_, _, rfl⟩ := written
      rfl
    rw [sent, attempts, sendTunnel_on, if_pos usable, written, bound, (ready.request w).2]
    exact ⟨_, rfl, rfl⟩

/-- Without a carriage the network hears nothing of the tunnel's stage. -/
theorem send_tunnel_of_not_carries (h : ∀ g s', ¬ Carries w context r s g s') :
    ∃ result s', Prepared w context r s result s' ∧
      (Act.on (send w .tunnel context r) s).2.world = s'.world := by
  obtain ⟨f, a, checks, sent⟩ | ⟨c, a, checks, sent⟩ := send_cases w .tunnel context r s
  · exact ⟨_, _, checks, by rw [sent]⟩
  · refine ⟨_, _, checks, ?_⟩
    rw [sent, attempts, sendTunnel_on]
    split
    · next usable =>
      split
      · rfl
      · next written => exact absurd (Carries.intro checks usable written) (h _ _)
    · rfl

theorem send_http_of_submits {sub : Http.Submission} (once : r.method ≠ getMethod)
    (h : Submits w context r s sub s') :
    (Act.on (send w .http context r) s).2.world = (w.submit sub s'.world).2 := by
  obtain ⟨ready, fit⟩ := h
  obtain ⟨f, a, checks, _⟩ | ⟨d, a, checks, sent⟩ := send_cases w .http context r s
  · cases (checks.unique w ready).1
  · obtain ⟨same, rfl⟩ := checks.unique w ready
    cases same
    rw [sent, attempts_of_not_get w .http _ _ (by rwa [(ready.request w).1])]
    dsimp only
    rw [sendHttp_on, fit]

theorem send_http_of_not_submits (once : r.method ≠ getMethod)
    (h : ∀ sub s', ¬ Submits w context r s sub s') :
    ∃ result s', Prepared w context r s result s' ∧
      (Act.on (send w .http context r) s).2.world = s'.world := by
  obtain ⟨f, a, checks, sent⟩ | ⟨c, a, checks, sent⟩ := send_cases w .http context r s
  · exact ⟨_, _, checks, by rw [sent]⟩
  · refine ⟨_, _, checks, ?_⟩
    rw [sent, attempts_of_not_get w .http _ _ (by rwa [(checks.request w).1])]
    dsimp only
    rw [sendHttp_on]
    split
    · rfl
    · next fit => exact absurd (Submits.intro checks fit) (h _ _)

end Courier.Client
