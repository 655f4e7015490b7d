import Courier.Proofs.Client.Departures
/-!
Which transport a dispatch takes, and how it is settled.  A request goes over the tunnel once if the
service is serving, and over HTTP if it is not or if the tunnel's outcome says that the service cannot
have seen it.  The last stage settles the dispatch and is counted, once.  None of this holds of a serving
service when the time that the call is given is too long to be written as a deadline: then the dispatch
stops short, with nothing sent, settled or counted.
-/
namespace Courier.Client

variable {σ : Type} (w : Surroundings σ)

/-- The service cannot have seen the request: the connection was refused, or the tunnel's protocol was
not understood. -/
inductive Unseen : Outcome → Prop where
  | refused (service detail : String) : Unseen (.error (.unavailable service .refused detail))
  | protocol (service detail : String) : Unseen (.error (.protocol service detail))

theorem fallsBack_iff (o : Outcome) : fallsBack o = true ↔ Unseen o := by
  constructor
  · intro back
    cases o with
    | ok r => cases back
    | error f =>
      cases f with
      | unavailable service reason detail =>
        cases reason with
        | refused => exact .refused service detail
        | disconnected => cases back
        | resolution => cases back
        | closed => cases back
      | timeout service limit => cases back
      | protocol service detail => exact .protocol service detail
      | responded service status body => cases back
      | unknown service detail => cases back
  · rintro (⟨service, detail⟩ | ⟨service, detail⟩) <;> rfl

/-- What a client's own checks refuse is not sent on. -/
theorem Prepared.not_unseen {context : Context} {r : Request} {s s' : Session σ} {f : Fault}
    (h : Prepared w context r s (.error f) s') : ¬ Unseen (.error f) := by
  rw [← fallsBack_iff]
  cases h <;> exact Bool.false_ne_true

/-! ### Counts -/

/-- One request more under this transport and outcome, one fallback more if there was one. -/
structure Counted (service : String) (t : Transport) (o : Outcome) (back : Prop) (m m' : Metrics) :
    Prop where
  requests : ∀ t' label, Metrics.value requestsSeries (requestLabels service t' label) m' =
    Metrics.value requestsSeries (requestLabels service t' label) m +
      open Classical in if t' = t ∧ label = outcomeLabel o then 1 else 0
  fallbacks : Metrics.value fallbacksSeries [("target", service)] m' =
    Metrics.value fallbacksSeries [("target", service)] m + open Classical in if back then 1 else 0

theorem counted_outcome (service : String) (t : Transport) (o : Outcome) (m : Metrics) :
    Counted service t o False m (countOutcome service t o m) := by
  have once := countOutcome_once service t o m
  refine ⟨fun t' label => ?_, ?_⟩
  · rw [once.requests]
  · rw [once.others _ _ (by decide) (by decide) (by decide), if_neg not_false, Nat.add_zero]

/-- Counts of what came before carry over when nothing was counted there but probes. -/
theorem Counted.after {service : String} {t : Transport} {o : Outcome} {back : Prop} {m m' m'' : Metrics}
    (h : Counted service t o back m' m'') (before : Uncounted m m') : Counted service t o back m m'' := by
  refine ⟨fun t' label => ?_, ?_⟩
  · rw [h.requests, before _ _ (by decide) (by decide)]
  · rw [h.fallbacks, before _ _ (by decide) (by decide)]

/-- The fallback that is counted between the stages. -/
theorem Counted.afterFallback {service : String} {t : Transport} {o : Outcome} {m m' : Metrics}
    (h : Counted service t o False (Metrics.count fallbacksSeries [("target", service)] m) m') :
    Counted service t o True m m' := by
  refine ⟨fun t' label => ?_, ?_⟩
  · rw [h.requests, Metrics.value_count_of_name (by decide) (by decide) (by decide)]
  · rw [h.fallbacks, Metrics.value_count_self]
    simp

/-! ### Settling -/

/-- A run from `s` that settled the outcome of a stage of `t`, and counted that once. -/
structure Settled (r : Request) (t : Transport) (o : Outcome) (back : Prop) (s : Session (Watched σ))
    (run : Except Breach Outcome × Session (Watched σ)) : Prop where
  result : run.1 = .ok (settle s.client.name r.propagateError t o []).1
  label : ∀ reply, run.1 = .ok (.ok reply) → reply.transport = t
  counted : Counted s.client.name t (raise s.client.name r.propagateError o) back s.metrics
    run.2.metrics

theorem settle_transport {service : String} {propagate : Bool} {t : Transport} {o : Outcome}
    (own : ∀ reply, o = .ok reply → reply.transport = t) {reply : Reply}
    (h : (settle service propagate t o []).1 = .ok reply) : reply.transport = t := by
  simp only [settle] at h
  cases raised : raise service propagate o with
  | ok given =>
    rw [raised] at h
    cases h
    cases o with
    | ok r =>
      simp only [raise] at raised
      split at raised
      · cases raised
      · cases raised
        exact own _ rfl
    | error f => cases raised
  | error f =>
    rw [raised] at h
    simp only [handOver] at h
    split at h
    · cases h
    · cases h
      rfl

theorem concluded_settled (r : Request) {t : Transport} {o : Outcome} {back : Prop}
    {s s' : Session (Watched σ)} (own : ∀ reply, o = .ok reply → reply.transport = t)
    (named : s'.client.name = s.client.name)
    (counted : Counted s.client.name t (raise s.client.name r.propagateError o) back s.metrics
      (countOutcome s.client.name t (raise s.client.name r.propagateError o) s'.metrics)) :
    Settled r t o back s (concluded t r o s') := by
  unfold concluded
  rw [named]
  exact ⟨rfl, fun reply h => settle_transport own (Except.ok.inj h), counted⟩

variable {w} {context : Context} {r : Request}

theorem Stage.staged {t : Transport} {s s' : Session (Watched σ)} {o : Outcome} {sent : List Departure}
    (h : Stage w context r t s o sent s') : Staged (fun _ _ => True) s s' := by
  have staged := send_staged (w.watched_conveying t) context r s
  rwa [h.ran] at staged

/-- The only stage, or the one stage of a dispatch in which nothing was counted before but probes. -/
theorem Stage.settled {t : Transport} {s s₁ s' : Session (Watched σ)} {o : Outcome}
    {sent : List Departure} (h : Stage w context r t s₁ o sent s') (named : s₁.client.name = s.client.name)
    (before : Uncounted s.metrics s₁.metrics) : Settled r t o False s (concluded t r o s') := by
  have staged := h.staged
  refine concluded_settled r ?_ (staged.client.name.trans named) ?_
  · rintro reply rfl
    exact h.sends.reply_transport
  · rw [staged.metrics]
    exact (counted_outcome _ t _ _).after before

/-- The second stage, after the fallback was counted. -/
theorem Stage.settledAfterFallback {s s₁ s' : Session (Watched σ)} {o : Outcome} {sent : List Departure}
    (h : Stage w context r .http (fallenBack s₁) o sent s') (named : s₁.client.name = s.client.name)
    (before : Uncounted s.metrics s₁.metrics) : Settled r .http o True s (concluded .http r o s') := by
  have staged := h.staged
  have first : (fallenBack s₁).client.name = s.client.name := named
  refine concluded_settled r ?_ (staged.client.name.trans first) ?_
  · rintro reply rfl
    exact h.sends.reply_transport
  · rw [staged.metrics]
    unfold fallenBack
    rw [named]
    exact (counted_outcome _ .http _ _).afterFallback.after before

theorem dispatchOver_of_stage {t : Transport} {s s' : Session (Watched σ)} {o : Outcome}
    {sent : List Departure} (h : Stage w context r t s o sent s') :
    Act.on (dispatchOver w.watched t context r) s = concluded t r o s' := by
  rw [dispatchOver_on, h.ran]

/-! ### Selection -/

variable (w) in
/-- The stages of a dispatch, once it is known whether the service is serving: which are entered, the
transport and the outcome of the last, and everything that departed. -/
inductive Course (context : Context) (r : Request) (served : Bool) (s : Session (Watched σ)) :
    List Transport → Transport → Outcome → List Departure → Prop where
  | tunnel {d : Departure} {o : Outcome} {s' : Session (Watched σ)} (serving : served = true)
      (stage : Stage w context r .tunnel s o [d] s') (seen : ¬ Unseen o) :
      Course context r served s [.tunnel] .tunnel o [d]
  | both {d : Departure} {o o' : Outcome} {sent : List Departure} {s' s'' : Session (Watched σ)}
      (serving : served = true) (first : Stage w context r .tunnel s o [d] s') (unseen : Unseen o)
      (second : Stage w context r .http (fallenBack s') o' sent s'') :
      Course context r served s [.tunnel, .http] .http o' (d :: sent)
  | http {o : Outcome} {sent : List Departure} {s' : Session (Watched σ)} (other : served = false)
      (stage : Stage w context r .http s o sent s') : Course context r served s [.http] .http o sent

/-- How many calls went over the tunnel. -/
def tunnelled (sent : List Departure) : Nat := sent.countP fun d => d.transport == .tunnel

theorem Stage.tunnelled_http {s s' : Session (Watched σ)} {o : Outcome} {sent : List Departure}
    (h : Stage w context r .http s o sent s') : tunnelled sent = 0 := by
  unfold tunnelled
  rw [List.countP_eq_zero]
  intro d member
  rw [h.sends.transport d member]
  decide

theorem Stage.tunnelled_tunnel {s s' : Session (Watched σ)} {o : Outcome} {d : Departure}
    (h : Stage w context r .tunnel s o [d] s') : d.transport = .tunnel :=
  h.sends.transport d (List.mem_singleton_self d)

theorem Course.tunnelled {served : Bool} {s : Session (Watched σ)} {stages : List Transport}
    {t : Transport} {o : Outcome} {sent : List Departure}
    (h : Course w context r served s stages t o sent) :
    tunnelled sent = if served then 1 else 0 := by
  cases h with
  | tunnel serving stage seen =>
    simp [Client.tunnelled, stage.tunnelled_tunnel, serving]
  | both serving first unseen second =>
    have none_later := second.tunnelled_http
    unfold Client.tunnelled at none_later ⊢
    simp [none_later, first.tunnelled_tunnel, serving]
  | http other stage => simp [stage.tunnelled_http, other]

variable (w) in
/-- A dispatch from `s` that takes its transports as it should, where `s₁` is the session once it is
known whether the service is serving. -/
def Selected (context : Context) (r : Request) (served : Bool) (s s₁ : Session (Watched σ))
    (run : Except Breach Outcome × Session (Watched σ)) : Prop :=
  ∃ stages t o sent, Course w context r served s₁ stages t o sent ∧
    Client.tunnelled sent = (if served then 1 else 0) ∧
    run.2.world.2 = s.world.2 ++ sent ∧
    Settled r t o (stages = [.tunnel, .http]) s run

/-- A run from `s` in which nothing departed, because of a fault that it settled. -/
def Held (r : Request) (t : Transport) (f : Fault) (s : Session (Watched σ))
    (run : Except Breach Outcome × Session (Watched σ)) : Prop :=
  run.2.world.2 = s.world.2 ∧ Settled r t (.error f) False s run

section

variable {served : Bool} {s s₁ : Session (Watched σ)}
  (answered : Act.on (isServing w.watched) s = (.ok served, s₁))
include answered

theorem gate_along : Along (fun x y : Watched σ => y.2 = x.2) s s₁ := by
  have gate := isServing_along w.watched_keeping s
  rwa [answered] at gate

theorem dispatch_selected_http (other : served = false) :
    Selected w context r served s s₁ (Act.on (dispatch w.watched context r) s) := by
  have gate := gate_along answered
  obtain ⟨o, sent, s', stage⟩ := stage_http w context r s₁
  subst other
  rw [dispatch_on, answered]
  dsimp only
  rw [dispatchOver_of_stage stage]
  have course : Course w context r false s₁ [.http] .http o sent := .http rfl stage
  have settled := stage.settled (s := s) gate.client.name gate.counts
  refine ⟨_, _, _, _, course, course.tunnelled, ?_, by simpa using settled⟩
  simp only [concluded, stage.record, gate.world]

theorem dispatch_selected_tunnel (serving : served = true) {d : Departure} {o : Outcome}
    {s' : Session (Watched σ)} (stage : Stage w context r .tunnel s₁ o [d] s') :
    Selected w context r served s s₁ (Act.on (dispatch w.watched context r) s) := by
  have gate := gate_along answered
  have staged := stage.staged
  have named : s'.client.name = s.client.name := staged.client.name.trans gate.client.name
  subst serving
  rw [dispatch_on, answered]
  dsimp only
  rw [stage.ran]
  dsimp only
  by_cases unseen : Unseen o
  · rw [if_pos ((fallsBack_iff o).mpr unseen)]
    obtain ⟨o', sent, s'', second⟩ := stage_http w context r (fallenBack s')
    rw [dispatchOver_of_stage second]
    have course := Course.both rfl stage unseen second
    have before : Uncounted s.metrics s'.metrics := by
      rw [staged.metrics]
      exact gate.counts
    have settled := second.settledAfterFallback (s := s) named before
    refine ⟨_, _, _, _, course, course.tunnelled, ?_, by simpa using settled⟩
    have between : (fallenBack s').world.2 = s.world.2 ++ [d] := by
      rw [← gate.world, ← stage.record]
      rfl
    simp only [concluded, second.record, between, List.append_assoc, List.singleton_append]
  · rw [if_neg fun back => unseen ((fallsBack_iff o).mp back)]
    have course := Course.tunnel rfl stage unseen
    have settled := stage.settled (s := s) gate.client.name gate.counts
    refine ⟨_, _, _, _, course, course.tunnelled, ?_, by simpa using settled⟩
    simp only [concluded, stage.record, gate.world]

/-- Nothing departs, is settled or is counted when the deadline cannot be written. -/
theorem dispatch_stops_short (serving : served = true) {c : Call} {s₂ : Session (Watched σ)}
    (ready : Prepared w.watched context r s₁ (.ok c) s₂)
    (usable : Openable s₂.client c.endpoint.tunnelAddress)
    (unwritten : Rpc.Deadline.write? c.timeout = none) :
    ∃ s', Act.on (dispatch w.watched context r) s = (.error .deadlineTooLong, s') ∧
      s'.world.2 = s.world.2 ∧ Uncounted s.metrics s'.metrics := by
  have gate := gate_along answered
  obtain ⟨s', stopped, record⟩ := send_tunnel_unwritten w ready usable unwritten
  have staged := send_staged (w.watched_conveying .tunnel) context r s₁
  rw [stopped] at staged
  subst serving
  refine ⟨s', ?_, record.trans gate.world, ?_⟩
  · rw [dispatch_on, answered]
    dsimp only
    rw [stopped]
  · rw [staged.metrics]
    exact gate.counts

/-- What a client's checks refuse is settled as a fault of the transport that would have been taken. -/
theorem dispatch_held {f : Fault} {s₂ : Session (Watched σ)}
    (failed : Prepared w.watched context r s₁ (.error f) s₂) :
    Held r (if served then .tunnel else .http) f s (Act.on (dispatch w.watched context r) s) := by
  have gate := gate_along answered
  have record := (prepared_record w failed).trans gate.world
  rw [dispatch_on, answered]
  cases served with
  | false =>
    have stage := stage_of_failed w .http failed
    dsimp only
    rw [dispatchOver_of_stage stage]
    exact ⟨record, stage.settled gate.client.name gate.counts⟩
  | true =>
    have stage := stage_of_failed w .tunnel failed
    dsimp only
    rw [stage.ran]
    dsimp only
    rw [if_neg fun back => failed.not_unseen w.watched ((fallsBack_iff _).mp back)]
    exact ⟨record, stage.settled gate.client.name gate.counts⟩

end

theorem dispatchOver_held (t : Transport) {f : Fault} {s s₁ : Session (Watched σ)}
    (failed : Prepared w.watched context r s (.error f) s₁) :
    Held r t f s (Act.on (dispatchOver w.watched t context r) s) := by
  have stage := stage_of_failed w t failed
  have nothing : Uncounted s.metrics s.metrics := fun _ _ _ _ => rfl
  have record := prepared_record w failed
  rw [dispatchOver_of_stage stage]
  exact ⟨record, stage.settled rfl nothing⟩

/-- For every answer about the service's health: a request that passes the client's checks takes its
transports as it should exactly if the deadline can be written where the tunnel needs it, and one that
does not pass is settled with nothing sent, whichever way it is dispatched. -/
theorem dispatch_selects_iff {context : Context} {r : Request} {served : Bool}
    {s s₁ : Session (Watched σ)} (answered : Act.on (isServing w.watched) s = (.ok served, s₁)) :
    (∀ c s₂, Prepared w.watched context r s₁ (.ok c) s₂ →
      Openable s₂.client c.endpoint.tunnelAddress →
      (Selected w context r served s s₁ (Act.on (dispatch w.watched context r) s) ↔
        (served = true → (Rpc.Deadline.write? c.timeout).isSome = true))) ∧
    (∀ f s₂, Prepared w.watched context r s₁ (.error f) s₂ →
      Held r (if served then .tunnel else .http) f s (Act.on (dispatch w.watched context r) s)) ∧
    ∀ t f s₂, Prepared w.watched context r s (.error f) s₂ →
      Held r t f s (Act.on (dispatchOver w.watched t context r) s) := by
  refine ⟨fun c s₂ ready usable => ⟨fun selected serving => ?_, fun writable => ?_⟩,
    fun f s₂ failed => dispatch_held answered failed, fun t f s₂ failed => dispatchOver_held t failed⟩
  · cases unwritten : Rpc.Deadline.write? c.timeout with
    | some deadline => rfl
    | none =>
      obtain ⟨s', stopped, _, _⟩ := dispatch_stops_short answered serving ready usable unwritten
      obtain ⟨stages, t, o, sent, _, _, _, settled⟩ := selected
      have result := settled.result
      rw [stopped] at result
      cases result
  · cases served with
    | false => exact dispatch_selected_http answered rfl
    | true =>
      obtain ⟨g, written⟩ : ∃ g, c.carriage? s₂.client.messageLimit = some g := by
        obtain ⟨deadline, some_deadline⟩ := Option.isSome_iff_exists.mp (writable rfl)
        exact ⟨_, by rw [Call.carriage?, some_deadline, Option.map_some]⟩
      obtain ⟨d, s', _, stage⟩ := stage_tunnel w (.intro ready usable written)
      exact dispatch_selected_tunnel answered rfl stage

/-! ### A deadline of many hours -/

/-- A client in still surroundings, of which nothing has departed. -/
def unsent : Session (Watched Unit) where
  client := .signedIn
  world := ((), [])

def patient (limit : Duration) : Request := { method := "POST", path := "echo", timeout := some limit }

/-- A minute can be written. -/
theorem minute_selects :
    Act.on (isServing Surroundings.still.watched) unsent =
      (.ok true, (Act.on (isServing Surroundings.still.watched) unsent).2) ∧
    Selected .still {} (patient (.ofSeconds 60)) true unsent
      (Act.on (isServing Surroundings.still.watched) unsent).2
      (Act.on (dispatch Surroundings.still.watched {} (patient (.ofSeconds 60))) unsent) := by
  refine ⟨rfl, ?_⟩
  refine ((dispatch_selects_iff rfl).1 _ _ (.ready rfl rfl rfl) ?_).mpr ?_
  · exact .inr (by decide +kernel)
  · intro _
    decide +kernel

/-- A deadline of a hundred million hours cannot, and the dispatch of a serving service stops short. -/
theorem long_deadline_selects_nothing :
    ¬ ∀ (w : Surroundings Unit) (context : Context) (r : Request) (served : Bool)
      (s s₁ : Session (Watched Unit)), Act.on (isServing w.watched) s = (.ok served, s₁) →
      ∀ c s₂, Prepared w.watched context r s₁ (.ok c) s₂ →
        Openable s₂.client c.endpoint.tunnelAddress →
        Selected w context r served s s₁ (Act.on (dispatch w.watched context r) s) := by
  intro all
  have usable : Openable unsent.client "http://localhost:9000" := .inr (by decide +kernel)
  have ready : Prepared Surroundings.still.watched {} (patient (.ofSeconds 360000000000))
      (Act.on (isServing Surroundings.still.watched) unsent).2 (.ok _) _ := .ready rfl rfl rfl
  obtain ⟨stages, t, o, sent, _, _, _, settled⟩ := all .still {} (patient (.ofSeconds 360000000000)) true
    unsent _ rfl _ _ ready usable
  obtain ⟨s', stopped, _, _⟩ := dispatch_stops_short (s := unsent) rfl rfl ready usable (by decide +kernel)
  have result := settled.result
  rw [stopped] at result
  cases result

end Courier.Client
