import Courier.Proofs.Registry.Sharing
import Courier.Proofs.Retry
import Courier.Proofs.Rpc.Deadline
/-!
What stops a client in its tracks.  Settings may let in more calls at once than can be counted, a deadline may
be too long to be written beside a call or a health check, and a number of attempts may be too great for its
word.  None of this is checked where settings are validated or requests are made.  Whoever stays within these
limits is never stopped, whatever the client was used for before and whatever the network does; and whoever
does not can be.
-/
namespace Courier

/-- The deadline can be written. -/
def Duration.Writable (d : Duration) : Prop := d.nanos < Rpc.Deadline.hourLimit * Rpc.TimeUnit.hour.nanos

instance (d : Duration) : Decidable d.Writable := inferInstanceAs (Decidable (_ < _))

theorem Duration.writable_iff {d : Duration} : d.Writable ↔ (Rpc.Deadline.write? d).isSome = true :=
  Rpc.Deadline.write?_isSome_iff.symm

/-- The limit is a hundred million hours. -/
example : (Duration.ofSeconds 359999999999).Writable ∧ ¬ (Duration.ofSeconds 360000000000).Writable := by decide

namespace Act

variable {σ α β : Type} {a : Act σ α} {f : α → Act σ β} {s s' : Session σ}

/-- Run on this session, the act comes to an end. -/
def Ends (a : Act σ α) (s : Session σ) : Prop := ∃ x s', on a s = (.ok x, s')

theorem ends_of_ok {x : α} (ran : on a s = (.ok x, s')) : a.Ends s := ⟨x, s', ran⟩

theorem not_ends_of_error {b : Breach} (stopped : on a s = (.error b, s')) : ¬ a.Ends s := by
  rintro ⟨x, s'', ran⟩
  rw [stopped] at ran
  cases ran

theorem ends_bind_iff : (a >>= f).Ends s ↔ ∃ x s', on a s = (.ok x, s') ∧ (f x).Ends s' := by
  unfold Ends
  rw [on_bind]
  cases on a s with
  | mk result s' =>
    cases result with
    | ok x =>
      refine ⟨fun ends => ⟨x, s', rfl, ends⟩, ?_⟩
      rintro ⟨_, _, ⟨⟩, ends⟩
      exact ends
    | error b =>
      constructor
      · rintro ⟨_, _, ⟨⟩⟩
      · rintro ⟨_, _, ⟨⟩, _⟩

theorem ends_bind_of_ok {x : α} (ran : on a s = (.ok x, s')) : (a >>= f).Ends s ↔ (f x).Ends s' := by
  unfold Ends
  rw [on_bind_ok ran]

/-- If nothing stops what follows, only the first act can be stopped. -/
theorem ends_bind_of_forall (free : ∀ x s, (f x).Ends s) : (a >>= f).Ends s ↔ a.Ends s :=
  ends_bind_iff.trans ⟨fun ⟨x, s', ran, _⟩ => ⟨x, s', ran⟩, fun ⟨x, s', ran⟩ => ⟨x, s', ran, free x s'⟩⟩

end Act

/-- Nothing is said of where the world moves. -/
theorem Surroundings.keeping_any {σ : Type} (w : Surroundings σ) : Client.Keeping w fun _ _ => True where
  refl _ := trivial
  trans _ _ := trivial
  resolve _ _ := trivial
  probe _ _ _ _ := trivial
  check _ _ _ := trivial

/-- Nothing that is sent is answered, and of the service's health this is found out, if there is anything. -/
def Surroundings.silent (health : Option HealthStatus) : Surroundings Unit :=
  { Surroundings.still with probe := health.map fun h _ x => (h, x) }

namespace Client

variable {σ : Type} (w : Surroundings σ)

theorem isServing_alike (s : Session σ) : Alike s.client (Act.on (isServing w) s).2.client :=
  (isServing_along w.keeping_any s).client

theorem send_alike (context : Context) (r : Request) (t : Transport) (s : Session σ) :
    Alike s.client (Act.on (send w t context r) s).2.client := by
  have move : Conveying w (fun _ _ => True) t :=
    ⟨w.keeping_any.toResolving, by cases t <;> exact fun _ _ => trivial⟩
  exact (send_staged move context r s).client

/-! ### The health gate -/

/-- The service is found, and a channel can lead there. -/
def Reachable (s : Session σ) : Prop :=
  ∃ e x, w.resolve s.client.descriptor s.world = (.ok e, x) ∧ Openable s.client e.tunnelAddress

/-- A reading of the health asks the service, since nothing fresh is remembered. -/
def Asks (s : Session σ) : Prop :=
  s.client.health.fresh? (w.now s.world) = none ∧ w.probe = none ∧ Reachable w s

theorem check_ends_iff (s : Session σ) :
    (check w).Ends s ↔ (Reachable w s → s.client.probeTimeout.Writable) := by
  unfold check Reachable
  rw [Act.ends_bind_of_ok (resolve_on w s)]
  cases found : w.resolve s.client.descriptor s.world with
  | mk result x =>
    cases result with
    | error e => exact ⟨fun _ ⟨_, _, same, _⟩ => (nomatch same), fun _ => Act.ends_of_ok rfl⟩
    | ok e =>
      have opening := openChannel_on e.tunnelAddress { s with world := x }
      by_cases usable : Openable s.client e.tunnelAddress
      · rw [if_pos usable] at opening
        dsimp only
        rw [Act.ends_bind_of_ok opening, Act.ends_bind_of_ok (Act.on_client _)]
        have limit : (connected { s with world := x } e.tunnelAddress).client.probeTimeout =
            s.client.probeTimeout := rfl
        rw [limit, Duration.writable_iff]
        cases written : Rpc.Deadline.write? s.client.probeTimeout with
        | none =>
          refine ⟨fun ends => absurd ends (Act.not_ends_of_error rfl), fun within => ?_⟩
          cases within ⟨e, x, rfl, usable⟩
        | some deadline => exact ⟨fun _ _ => rfl, fun _ => Act.ends_of_ok rfl⟩
      · rw [if_neg usable] at opening
        dsimp only
        rw [Act.ends_bind_of_ok opening]
        refine ⟨fun _ ⟨_, _, same, usable'⟩ => ?_, fun _ => Act.ends_of_ok rfl⟩
        cases same
        exact absurd usable' usable

theorem status_ends_iff (s : Session σ) :
    (status w).Ends s ↔ (Asks w s → s.client.probeTimeout.Writable) := by
  unfold status Asks
  rw [Act.ends_bind_of_ok (Act.on_client s), Act.ends_bind_of_ok (Act.on_ask _ s)]
  cases known : s.client.health.fresh? (w.now s.world) with
  | some h => exact ⟨fun _ asks => (nomatch asks.1), fun _ => Act.ends_of_ok rfl⟩
  | none =>
    refine (Act.ends_bind_of_forall fun _ _ => Act.ends_of_ok rfl).trans ?_
    unfold probe
    cases scripted : w.probe with
    | some p => exact ⟨fun _ asks => (nomatch asks.2.1), fun _ => Act.ends_of_ok rfl⟩
    | none =>
      refine (check_ends_iff w s).trans ⟨fun within asks => within asks.2.2, fun within reachable => ?_⟩
      exact within ⟨rfl, rfl, reachable⟩

/-- Asking whether the service is serving ends, unless the service is asked and the deadline for that cannot
be written. -/
theorem isServing_ends_iff (s : Session σ) :
    (isServing w).Ends s ↔ (Asks w s → s.client.probeTimeout.Writable) :=
  (Act.ends_bind_of_forall fun _ _ => Act.ends_of_ok rfl).trans (status_ends_iff w s)

/-! ### Stages -/

variable (context : Context) (r : Request)

/-- The stage of a transport has this call to send. -/
def Calls (t : Transport) (s : Session σ) (c : Call) : Prop :=
  ∃ s', Prepared w context r s (.ok c) s' ∧ (t = .tunnel → Openable s'.client c.endpoint.tunnelAddress)

/-- Over HTTP nothing stops a stage. -/
theorem send_http_ends (s : Session σ) : (send w .http context r).Ends s := by
  have attempt : ∀ c (n : Nat) s, (sendHttp w c).Ends s := by
    intro c n s
    unfold Act.Ends
    rw [sendHttp_on]
    cases unfit? w c with
    | some f => exact ⟨_, _, rfl⟩
    | none => exact ⟨_, _, rfl⟩
  have tries : ∀ c left n s, (retryFrom (fun _ => sendHttp w c) n left).Ends s := by
    intro c left
    induction left with
    | zero => exact attempt c
    | succ left ih =>
      intro n s
      obtain ⟨o, s', ran⟩ := attempt c n s
      unfold retryFrom
      rw [Act.ends_bind_of_ok ran]
      cases again : isRetryable o with
      | true => exact ih (n + 1) s'
      | false => exact Act.ends_of_ok rfl
  obtain ⟨f, s', checks, sent⟩ | ⟨c, s', checks, sent⟩ := send_cases w .http context r s
  · exact Act.ends_of_ok sent
  · obtain ⟨o, s'', ran⟩ := tries c _ 1 s'
    exact ⟨o, s'', sent.trans ran⟩

/-- Over the tunnel a stage ends, unless it has a call whose deadline cannot be written. -/
theorem send_tunnel_ends_iff (s : Session σ) :
    (send w .tunnel context r).Ends s ↔ ∀ c, Calls w context r .tunnel s c → c.timeout.Writable := by
  obtain ⟨f, s', checks, sent⟩ | ⟨c, s', checks, sent⟩ := send_cases w .tunnel context r s
  · refine ⟨fun _ c ⟨s'', ready, _⟩ => ?_, fun _ => Act.ends_of_ok sent⟩
    cases (checks.unique w ready).1
  · have only : (∀ c, Calls w context r .tunnel s c → c.timeout.Writable) ↔
        (Openable s'.client c.endpoint.tunnelAddress → c.timeout.Writable) := by
      refine ⟨fun all usable => all c ⟨s', checks, fun _ => usable⟩, fun one d ⟨s'', ready, usable⟩ => ?_⟩
      obtain ⟨same, rfl⟩ := checks.unique w ready
      cases same
      exact one (usable rfl)
    rw [only, Act.Ends, sent]
    unfold attempts
    rw [sendTunnel_on]
    by_cases usable : Openable s'.client c.endpoint.tunnelAddress
    · rw [if_pos usable, forall_prop_of_true usable, Duration.writable_iff, Call.carriage?]
      cases Rpc.Deadline.write? c.timeout with
      | none =>
        constructor
        · rintro ⟨_, _, ⟨⟩⟩
        · rintro ⟨⟩
      | some deadline => exact ⟨fun _ => rfl, fun _ => ⟨_, _, rfl⟩⟩
    · rw [if_neg usable]
      exact ⟨fun _ usable' => absurd usable' usable, fun _ => ⟨_, _, rfl⟩⟩

/-! ### A dispatch -/

/-- How a request is dispatched: over the transport that the service's health suggests, or over a given one. -/
inductive Way where
  | chosen
  | named (t : Transport)
  deriving DecidableEq

def Way.act (way : Way) : Act σ Outcome :=
  match way with
  | .chosen => dispatch w context r
  | .named t => dispatchOver w t context r

/-- A dispatch of this kind may use the transport. -/
def Way.Takes (way : Way) (t : Transport) : Prop := way = .chosen ∨ way = .named t

/-- The stages that a dispatch enters, each with the session in which it starts. -/
inductive Enters (s : Session σ) : Way → Transport → Session σ → Prop where
  | named (t : Transport) : Enters s (.named t) t s
  | served {s₁ : Session σ} (answered : Act.on (isServing w) s = (.ok true, s₁)) :
      Enters s .chosen .tunnel s₁
  | unserved {s₁ : Session σ} (answered : Act.on (isServing w) s = (.ok false, s₁)) :
      Enters s .chosen .http s₁
  | unseen {o : Outcome} {s₁ s₂ : Session σ} (answered : Act.on (isServing w) s = (.ok true, s₁))
      (first : Act.on (send w .tunnel context r) s₁ = (.ok o, s₂)) (back : fallsBack o = true) :
      Enters s .chosen .http (fallenBack s₂)

theorem dispatchOver_ends_iff (t : Transport) (s : Session σ) :
    (dispatchOver w t context r).Ends s ↔ (send w t context r).Ends s := by
  unfold Act.Ends
  rw [dispatchOver_on]
  cases Act.on (send w t context r) s with
  | mk result s' =>
    cases result with
    | ok o => exact ⟨fun _ => ⟨o, s', rfl⟩, fun _ => ⟨_, _, rfl⟩⟩
    | error b => rfl

/-- Nothing stops a dispatch but its health gate and the stage of the tunnel. -/
theorem dispatch_ends_iff (s : Session σ) :
    (dispatch w context r).Ends s ↔ (isServing w).Ends s ∧
      ∀ s₁, Act.on (isServing w) s = (.ok true, s₁) → (send w .tunnel context r).Ends s₁ := by
  have http := fun s => (dispatchOver_ends_iff w context r .http s).mpr (send_http_ends w context r s)
  unfold Act.Ends at http ⊢
  rw [dispatch_on]
  cases answered : Act.on (isServing w) s with
  | mk answer s₁ =>
    rcases answer with b | _ | _
    · refine ⟨?_, fun ends => ?_⟩
      · rintro ⟨_, _, ⟨⟩⟩
      · obtain ⟨_, _, ⟨⟩⟩ := ends.1
    · exact ⟨fun _ => ⟨⟨_, _, rfl⟩, fun _ same => nomatch same⟩, fun _ => http s₁⟩
    · dsimp only
      cases stage : Act.on (send w .tunnel context r) s₁ with
      | mk result s₂ =>
        cases result with
        | error b =>
          refine ⟨?_, fun ends => ?_⟩
          · rintro ⟨_, _, ⟨⟩⟩
          · obtain ⟨_, _, ran⟩ := ends.2 s₁ rfl
            cases stage.symm.trans ran
        | ok o =>
          refine ⟨fun _ => ⟨⟨_, _, rfl⟩, fun _ same => ?_⟩, fun _ => ?_⟩
          · cases same
            exact ⟨_, _, stage⟩
          · dsimp only
            split
            · exact http (fallenBack s₂)
            · exact ⟨_, _, rfl⟩

/-- Dispatched in any way a request comes to an outcome, unless a deadline cannot be written that is needed:
where the service is asked for its health, or where the tunnel's stage has a call. -/
theorem act_ends_iff (way : Way) (s : Session σ) :
    (way.act w context r).Ends s ↔
      (way = .chosen → Asks w s → s.client.probeTimeout.Writable) ∧
      ∀ s₁ c, Enters w context r s way .tunnel s₁ → Calls w context r .tunnel s₁ c → c.timeout.Writable := by
  cases way with
  | chosen =>
    refine (dispatch_ends_iff w context r s).trans (and_congr ?_ ?_)
    · rw [isServing_ends_iff, forall_prop_of_true rfl]
    · constructor
      · rintro stage s₁ c (_ | answered)
        exact (send_tunnel_ends_iff w context r s₁).mp (stage s₁ answered) c
      · intro all s₁ answered
        exact (send_tunnel_ends_iff w context r s₁).mpr fun c => all s₁ c (.served answered)
  | named t =>
    refine (dispatchOver_ends_iff w context r t s).trans ⟨fun ends => ⟨nofun, ?_⟩, fun within => ?_⟩
    · rintro s₁ c (_ | _)
      exact (send_tunnel_ends_iff w context r s).mp ends c
    · cases t with
      | http => exact send_http_ends w context r s
      | tunnel => exact (send_tunnel_ends_iff w context r s).mpr fun c => within.2 s c (.named .tunnel)

/-! ### A client through its uses -/

variable {w context r}

/-- No act changes what limits a client. -/
theorem act_alike (way : Way) (s : Session σ) : Alike s.client (Act.on (way.act w context r) s).2.client := by
  have single : ∀ t s, Alike s.client (Act.on (dispatchOver w t context r) s).2.client := by
    intro t s
    have stage := send_alike w context r t s
    rw [dispatchOver_on]
    cases ran : Act.on (send w t context r) s with
    | mk result s' =>
      rw [ran] at stage
      cases result <;> exact stage
  cases way with
  | named t => exact single t s
  | chosen =>
    have gate := isServing_alike w s
    unfold Way.act
    rw [dispatch_on]
    cases answered : Act.on (isServing w) s with
    | mk answer s₁ =>
      rw [answered] at gate
      rcases answer with b | _ | _
      · exact gate
      · exact gate.trans (single .http s₁)
      · have stage := send_alike w context r .tunnel s₁
        dsimp only
        cases ran : Act.on (send w .tunnel context r) s₁ with
        | mk result s₂ =>
          rw [ran] at stage
          cases result with
          | error b => exact gate.trans stage
          | ok o =>
            dsimp only
            split
            · exact (gate.trans stage).trans (single .http (fallenBack s₂))
            · exact gate.trans stage

theorem Enters.takes {way : Way} {t : Transport} {s s₁ : Session σ} (h : Enters w context r s way t s₁) :
    way.Takes t := by
  cases h with
  | named t => exact .inr rfl
  | served | unserved | unseen => exact .inl rfl

theorem Enters.alike {way : Way} {t : Transport} {s s₁ : Session σ} (h : Enters w context r s way t s₁) :
    Alike s.client s₁.client := by
  have gate := isServing_alike w s
  cases h with
  | named t => exact .refl _
  | served answered =>
    rw [answered] at gate
    exact gate
  | unserved answered =>
    rw [answered] at gate
    exact gate
  | @unseen o s₁ s₂ answered first back =>
    have stage := send_alike w context r .tunnel s₁
    rw [answered] at gate
    rw [first] at stage
    exact gate.trans stage

/-- The sessions to which uses of a client lead, while its surroundings do as they like. -/
inductive Leads (w : Surroundings σ) (s : Session σ) : Session σ → Prop where
  | start : Leads w s s
  | dispatched {s' : Session σ} (way : Way) (context : Context) (r : Request) (before : Leads w s s') :
      Leads w s (Act.on (way.act w context r) s').2
  | read {s' : Session σ} (before : Leads w s s') : Leads w s (Act.on (status w) s').2
  | invalidated {s' : Session σ} (before : Leads w s s') : Leads w s (Act.on invalidate s').2
  | closed {s' : Session σ} (before : Leads w s s') : Leads w s { s' with client := s'.client.close }
  | meanwhile {s' : Session σ} (x : σ) (before : Leads w s s') : Leads w s { s' with world := x }

/-- A client with the limits of these settings. -/
structure Bounded (settings : Settings) (c : Client) : Prop where
  retry : c.retry = RetryPolicy.ofSettings settings
  requestTimeout : c.requestTimeout = settings.requestTimeout
  probeTimeout : c.probeTimeout = settings.healthProbeTimeout

theorem Bounded.of_alike {settings : Settings} {a b : Client} (h : Bounded settings a) (alike : Alike a b) :
    Bounded settings b :=
  ⟨alike.retry.trans h.retry, alike.requestTimeout.trans h.requestTimeout,
    alike.probeTimeout.trans h.probeTimeout⟩

theorem Leads.bounded {settings : Settings} {s s' : Session σ} (h : Leads w s s')
    (start : Bounded settings s.client) : Bounded settings s'.client := by
  induction h with
  | start => exact start
  | dispatched way context r before ih => exact ih.of_alike (act_alike way _)
  | read before ih => exact ih.of_alike (status_along w.keeping_any _).client
  | invalidated before ih => exact ⟨ih.retry, ih.requestTimeout, ih.probeTimeout⟩
  | @closed s' before ih =>
    unfold close
    split
    · exact ih
    · exact ⟨ih.retry, ih.requestTimeout, ih.probeTimeout⟩
  | meanwhile x before ih => exact ih

/-! ### Settings and their limits -/

/-- From this session the request comes to an outcome, and wherever attempts are made over HTTP their number
is the one that the client's policy stands for. -/
structure Unhindered (w : Surroundings σ) (context : Context) (r : Request) (way : Way) (s : Session σ) :
    Prop where
  ends : (way.act w context r).Ends s
  counted : ∀ s₁ c, Enters w context r s way .http s₁ → Calls w context r .http s₁ c →
    (s₁.client.retry.attempts r.method r.retryCount).toNat = s₁.client.retry.count r.method r.retryCount

/-- The client of a service can be built, and the request is unhindered whatever the surroundings do and
whatever the client was used for before. -/
def Withstands (settings : Settings) (name : String) (way : Way) (context : Context) (r : Request) : Prop :=
  ∃ c, ofSettings name settings = .ok c ∧
    ∀ (σ : Type) (w : Surroundings σ) (m : Metrics) (x : σ) (s : Session σ), Leads w ⟨c, m, x⟩ s →
      Unhindered w context r way s

/-- Settings and request stay within the limits that matter to this way of dispatching. -/
structure Within (settings : Settings) (way : Way) (r : Request) : Prop where
  permits : Countable settings
  probe : way = .chosen → settings.healthProbeTimeout.Writable
  deadline : way.Takes .tunnel → r.rejectedFields = [] → (r.timeout.getD settings.requestTimeout).Writable
  attempts : way.Takes .http → r.rejectedFields = [] → r.method = getMethod →
    min (r.retryCount.getD settings.defaultRetryCount).toNat settings.maxRetryCount.toNat < 4294967295

theorem ofSettings_bounded {name : String} {settings : Settings} {c : Client}
    (made : ofSettings name settings = .ok c) : Bounded settings c := by
  unfold ofSettings at made
  split at made
  · cases made
  · cases made
    exact ⟨rfl, rfl, rfl⟩

theorem Calls.request {t : Transport} {s : Session σ} {c : Call} (h : Calls w context r t s c) :
    r.rejectedFields = [] ∧ c.timeout = r.timeout.getD s.client.requestTimeout := by
  obtain ⟨s', ready, _⟩ := h
  cases ready with
  | ready opened valid found => exact ⟨valid, rfl⟩

theorem Within.withstands {settings : Settings} {way : Way} (h : Within settings way r) (name : String)
    (context : Context) : Withstands settings name way context r := by
  obtain ⟨c, made⟩ := ofSettings_of_countable name h.permits
  refine ⟨c, made, fun σ w m x s leads => ⟨?_, fun s₁ c enters calls => ?_⟩⟩
  · have bounded := leads.bounded (ofSettings_bounded made)
    refine (act_ends_iff w context r way s).mpr ⟨fun chosen _ => ?_, fun s₁ c enters calls => ?_⟩
    · rw [bounded.probeTimeout]
      exact h.probe chosen
    · obtain ⟨valid, timeout⟩ := calls.request
      rw [timeout, (bounded.of_alike enters.alike).requestTimeout]
      exact h.deadline enters.takes valid
  · have bounded := (leads.bounded (ofSettings_bounded made)).of_alike enters.alike
    rw [bounded.retry]
    exact (RetryPolicy.attempts_eq_count_iff ..).mpr (h.attempts enters.takes calls.request.1)

/-! ### Whoever passes a limit can be stopped -/

/-- A new client remembers no health. -/
theorem ofSettings_unread {name : String} {settings : Settings} {c : Client}
    (made : ofSettings name settings = .ok c) (now : Instant) : c.health.fresh? now = none := by
  unfold ofSettings at made
  split at made
  · cases made
  · cases made
    rfl

theorem silent_reachable (health : Option HealthStatus) (s : Session Unit) : Reachable (.silent health) s := by
  refine ⟨_, _, rfl, ?_⟩
  change Openable s.client ("http://" ++ "localhost" ++ ":" ++ toString (9000 : UInt16).toNat)
  exact .inr (by decide +kernel)

/-- An open client has a call for every request that is not refused. -/
theorem silent_calls (t : Transport) (health : Option HealthStatus) {s : Session Unit}
    (opened : s.client.closed = false) (valid : r.rejectedFields = []) :
    ∃ c, Calls (.silent health) context r t s c := by
  obtain ⟨e, x, found, usable⟩ := silent_reachable health s
  have ready : Prepared (.silent health) context r s (.ok _) _ := .ready opened valid found
  exact ⟨_, _, ready, fun _ => usable⟩

theorem silent_answers {name : String} {settings : Settings} {c : Client}
    (made : ofSettings name settings = .ok c) (h : HealthStatus) :
    ∃ s₁, Act.on (isServing (.silent (some h))) ⟨c, [], ()⟩ = (.ok (h == .serving), s₁) := by
  unfold ofSettings at made
  split at made
  · cases made
  · cases made
    exact ⟨_, rfl⟩

/-- A new client enters every stage that the way to dispatch allows, if the service's health suggests it. -/
theorem silent_enters {name : String} {settings : Settings} {c : Client} {way : Way} {t : Transport}
    (made : ofSettings name settings = .ok c) (takes : way.Takes t) :
    ∃ health s₁, Enters (.silent health) context r ⟨c, [], ()⟩ way t s₁ := by
  rcases takes with rfl | rfl
  · cases t with
    | http =>
      obtain ⟨s₁, answered⟩ := silent_answers made .notServing
      exact ⟨_, s₁, .unserved answered⟩
    | tunnel =>
      obtain ⟨s₁, answered⟩ := silent_answers made .serving
      exact ⟨_, s₁, .served answered⟩
  · exact ⟨none, _, .named t⟩

theorem Withstands.within {settings : Settings} {name : String} {way : Way}
    (h : Withstands settings name way context r) : Within settings way r := by
  obtain ⟨c, made, unhindered⟩ := h
  obtain ⟨permits, _, opened⟩ := ofSettings_ok made
  have bounded := ofSettings_bounded made
  -- Every limit is read off in surroundings that lead a new client to where the limit matters.
  have new health := unhindered Unit (.silent health) [] () _ .start
  have stage : ∀ t, way.Takes t → r.rejectedFields = [] → ∃ health s₁ c₁,
      Enters (.silent health) context r ⟨c, [], ()⟩ way t s₁ ∧ Calls (.silent health) context r t s₁ c₁ ∧
      Bounded settings s₁.client := by
    intro t takes valid
    obtain ⟨health, s₁, enters⟩ := silent_enters made takes
    obtain ⟨c₁, calls⟩ := silent_calls t health (enters.alike.closed.trans opened) valid
    exact ⟨health, s₁, c₁, enters, calls, bounded.of_alike enters.alike⟩
  refine { permits, probe := fun chosen => ?_, deadline := fun takes valid => ?_,
           attempts := fun takes valid => ?_ }
  · have asks : Asks (.silent none) ⟨c, [], ()⟩ := ⟨ofSettings_unread made _, rfl, silent_reachable _ _⟩
    rw [← bounded.probeTimeout]
    exact ((act_ends_iff ..).mp (new none).ends).1 chosen asks
  · obtain ⟨health, s₁, c₁, enters, calls, limits⟩ := stage .tunnel takes valid
    have written := ((act_ends_iff ..).mp (new health).ends).2 s₁ c₁ enters calls
    rwa [calls.request.2, limits.requestTimeout] at written
  · obtain ⟨health, s₁, c₁, enters, calls, limits⟩ := stage .http takes valid
    have counted := (new health).counted s₁ c₁ enters calls
    rw [limits.retry] at counted
    exact (RetryPolicy.attempts_eq_count_iff ..).mp counted

/-- A client can be built for a service, and its requests are dispatched without being stopped and without a
number of attempts that wraps, whatever its surroundings and its uses before, if and only if settings and
request stay within the limits. -/
theorem withstands_iff (settings : Settings) (name : String) (way : Way) (context : Context) (r : Request) :
    Withstands settings name way context r ↔ Within settings way r :=
  ⟨Withstands.within, fun within => within.withstands name context⟩

/-- Settings that pass their validation may let in too many calls at once. -/
theorem valid_settings_pass_limits :
    ¬ ∀ (settings : Settings) (name : String) (way : Way) (context : Context) (r : Request),
      settings.validate = .ok () → name ∈ settings.allowedServices →
        Withstands settings name way context r := by
  intro all
  have withstands := all
    { connections := ["ledger"], concurrencyLimit := 2305843009213693952, maxConnections := 2305843009213693952 }
    "ledger" .chosen {} { method := "GET", path := "echo" } rfl (by decide)
  exact absurd withstands.within.permits (Nat.not_le.mpr (by decide))

end Client
end Courier
