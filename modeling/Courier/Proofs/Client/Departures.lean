import Courier.Proofs.Client.Dispatch
/-!
What leaves a client.  `Surroundings.watched` is the same surroundings with a record of everything that
was handed to the network and of how that ended; nothing in it depends on the record.  A stage hands
over only what belongs to its transport, and it comes to the outcome of what it handed over last.
-/
namespace Courier

/-- Something that was handed to the network, and how that ended. -/
inductive Departure where
  | carried (carriage : Tunnel.Carriage) (delivery : Tunnel.Delivery)
  | submitted (submission : Http.Submission) (delivery : Http.Delivery)
  deriving Repr

namespace Departure

def transport : Departure → Transport
  | .carried _ _ => .tunnel
  | .submitted _ _ => .http

def outcome (service : String) : Departure → Outcome
  | .carried g d => d.outcome service g.timeout
  | .submitted sub d => d.outcome service sub.timeout

theorem outcome_transport {service : String} {d : Departure} {r : Reply}
    (h : d.outcome service = .ok r) : r.transport = d.transport := by
  cases d with
  | carried g d =>
    cases d with
    | answered reply =>
      simp only [outcome, Tunnel.Delivery.outcome, Tunnel.Reply.outcome] at h
      split at h
      · cases h
        rfl
      · cases h
    | ended status elapsed => cases h
    | timedOut => cases h
  | submitted sub d =>
    cases d with
    | answered status body =>
      cases h
      rfl
    | timedOut => cases h
    | unreachable reason detail => cases h
    | failed detail => cases h

end Departure

/-- A world, with everything that departed into it, latest last. -/
abbrev Watched (σ : Type) := σ × List Departure

def Surroundings.watched {σ : Type} (w : Surroundings σ) : Surroundings (Watched σ) where
  now x := w.now x.1
  clock x := w.clock x.1
  span x := w.span x.1
  resolve d x :=
    let (found, y) := w.resolve d x.1
    (found, (y, x.2))
  probe := w.probe.map fun p => fun name x =>
    let (status, y) := p name x.1
    (status, (y, x.2))
  check address limit x :=
    let (ended, y) := w.check address limit x.1
    (ended, (y, x.2))
  carry g x :=
    let (delivery, y) := w.carry g x.1
    (delivery, (y, x.2 ++ [.carried g delivery]))
  submit sub x :=
    let (delivery, y) := w.submit sub x.1
    (delivery, (y, x.2 ++ [.submitted sub delivery]))
  word := w.word

/-- Short of sending, nothing departs. -/
theorem Surroundings.watched_keeping {σ : Type} (w : Surroundings σ) :
    Client.Keeping w.watched fun x y => y.2 = x.2 where
  refl x := rfl
  trans h h' := h'.trans h
  resolve d x := rfl
  probe p scripted n x := by
    obtain ⟨q, _, rfl⟩ := Option.map_eq_some_iff.mp scripted
    rfl
  check a d x := rfl

theorem Surroundings.watched_conveying {σ : Type} (w : Surroundings σ) (t : Transport) :
    Client.Conveying w.watched (fun _ _ => True) t where
  refl _ := trivial
  trans _ _ := trivial
  resolve _ _ := trivial
  send := by cases t <;> exact fun _ _ => trivial

namespace Client

variable {σ : Type} (w : Surroundings σ)

/-- What a stage came to, by what it handed over: a fault of the client's own, or the outcome of the
last departure. -/
inductive Sent (service : String) (t : Transport) : List Departure → Outcome → Prop where
  | nothing (f : Fault) : Sent service t [] (.error f)
  | last {earlier : List Departure} {d : Departure} (mine : ∀ e ∈ earlier ++ [d], e.transport = t) :
      Sent service t (earlier ++ [d]) (d.outcome service)

theorem Sent.transport {service : String} {t : Transport} {sent : List Departure} {o : Outcome}
    (h : Sent service t sent o) : ∀ e ∈ sent, e.transport = t := by
  cases h with
  | nothing f => nofun
  | last mine => exact mine

theorem Sent.reply_transport {service : String} {t : Transport} {sent : List Departure} {r : Reply}
    (h : Sent service t sent (.ok r)) : r.transport = t := by
  generalize whole : (.ok r : Outcome) = o at h
  cases h with
  | nothing f => cases whole
  | last mine =>
    rw [Departure.outcome_transport whole.symm]
    exact mine _ (List.mem_append_right _ (List.mem_singleton_self _))

/-- A run of one stage: its outcome, the session after it, and what departed in between. -/
structure Stage (context : Context) (r : Request) (t : Transport) (s : Session (Watched σ)) (o : Outcome)
    (sent : List Departure) (s' : Session (Watched σ)) : Prop where
  ran : Act.on (send w.watched t context r) s = (.ok o, s')
  record : s'.world.2 = s.world.2 ++ sent
  sends : Sent s.client.name t sent o

/-! ### Attempts over HTTP -/

theorem sendHttp_unfit {c : Call} {f : Fault} (unfit : unfit? w.watched c = some f)
    (s : Session (Watched σ)) :
    Act.on (sendHttp w.watched c) s = (.ok (.error f), withPool s) := by
  rw [sendHttp_on, unfit]

theorem sendHttp_fit {c : Call} (fit : unfit? w.watched c = none) (s : Session (Watched σ)) :
    ∃ d s', d.transport = .http ∧ s'.world.2 = s.world.2 ++ [d] ∧
      Act.on (sendHttp w.watched c) s = (.ok (d.outcome c.target), s') := by
  rw [sendHttp_on, fit]
  exact ⟨.submitted c.submission (w.submit c.submission s.world.1).1, _, rfl, rfl, rfl⟩

/-- A call that cannot be submitted is not tried again. -/
theorem unfit_not_retryable {c : Call} {f : Fault} (unfit : unfit? w.watched c = some f) :
    isRetryable (.error f) = false := by
  unfold unfit? at unfit
  split at unfit
  · cases unfit
    rfl
  · split at unfit
    · cases unfit
    · cases unfit
      rfl

/-- Attempts follow each other until the last one, whose outcome stands. -/
theorem retryFrom_fit {c : Call} (fit : unfit? w.watched c = none) (left : Nat) :
    ∀ n (s : Session (Watched σ)), ∃ earlier d s',
      Act.on (retryFrom (fun _ => sendHttp w.watched c) n left) s = (.ok (d.outcome c.target), s') ∧
      s'.world.2 = s.world.2 ++ (earlier ++ [d]) ∧ ∀ e ∈ earlier ++ [d], e.transport = .http := by
  induction left with
  | zero =>
    intro n s
    obtain ⟨d, s', own, record, ran⟩ := sendHttp_fit w fit s
    exact ⟨[], d, s', ran, record, by simpa using own⟩
  | succ left ih =>
    intro n s
    obtain ⟨d, s', own, record, ran⟩ := sendHttp_fit w fit s
    unfold retryFrom
    rw [Act.on_bind_ok ran]
    cases again : isRetryable (d.outcome c.target) with
    | false => exact ⟨[], d, s', by simp, record, by simpa using own⟩
    | true =>
      simp only [if_true]
      obtain ⟨earlier, e, s'', later, more, mine⟩ := ih (n + 1) s'
      refine ⟨d :: earlier, e, s'', later, by rw [more, record, List.append_assoc]; rfl, ?_⟩
      intro x member
      rcases List.mem_cons.mp member with rfl | member
      · exact own
      · exact mine x member

theorem retryFrom_unfit {c : Call} {f : Fault} (unfit : unfit? w.watched c = some f) (left n : Nat)
    (s : Session (Watched σ)) :
    Act.on (retryFrom (fun _ => sendHttp w.watched c) n left) s = (.ok (.error f), withPool s) := by
  have ran := sendHttp_unfit w unfit s
  cases left with
  | zero => exact ran
  | succ left =>
    unfold retryFrom
    rw [Act.on_bind_ok ran, unfit_not_retryable w unfit]
    rfl

/-! ### Stages -/

variable {context : Context} {r : Request} {s : Session (Watched σ)}

theorem prepared_record {result : Except Fault Call} {s' : Session (Watched σ)}
    (h : Prepared w.watched context r s result s') : s'.world.2 = s.world.2 :=
  (h.staged w.watched_keeping.toResolving).world

/-- A stage whose checks fail hands nothing over. -/
theorem stage_of_failed (t : Transport) {f : Fault} {s' : Session (Watched σ)}
    (h : Prepared w.watched context r s (.error f) s') : Stage w context r t s (.error f) [] s' := by
  obtain ⟨f', a, checks, sent⟩ | ⟨c, a, checks, _⟩ := send_cases w.watched t context r s
  · obtain ⟨same, rfl⟩ := checks.unique w.watched h
    cases same
    exact ⟨sent, by rw [prepared_record w h, List.append_nil], .nothing f⟩
  · cases (checks.unique w.watched h).1

/-- Over HTTP a stage always comes to an outcome. -/
theorem stage_http (context : Context) (r : Request) (s : Session (Watched σ)) :
    ∃ o sent s', Stage w context r .http s o sent s' := by
  obtain ⟨f, a, checks, _⟩ | ⟨c, a, checks, sent⟩ := send_cases w.watched .http context r s
  · exact ⟨_, _, _, stage_of_failed w .http checks⟩
  · have target := (checks.request w.watched).2
    have before := prepared_record w checks
    have start : ∃ left, Act.on (attempts w.watched .http s.client.retry c) a =
        Act.on (retryFrom (fun _ => sendHttp w.watched c) 1 left) a := ⟨_, rfl⟩
    obtain ⟨left, tries⟩ := start
    rw [tries] at sent
    cases unfit : unfit? w.watched c with
    | some f =>
      rw [retryFrom_unfit w unfit] at sent
      refine ⟨_, [], _, sent, ?_, .nothing f⟩
      rw [List.append_nil]
      exact before
    | none =>
      obtain ⟨earlier, d, s', ran, record, mine⟩ := retryFrom_fit w unfit left 1 a
      rw [ran, target] at sent
      exact ⟨_, _, s', sent, by rw [record, before], .last mine⟩

/-- Over the tunnel a call that can be carried departs once. -/
theorem stage_tunnel {g : Tunnel.Carriage} {s' : Session (Watched σ)}
    (h : Carries w.watched context r s g s') :
    ∃ d s'', d.transport = .tunnel ∧ Stage w context r .tunnel s (d.outcome s.client.name) [d] s'' := by
  have before : s'.world.2 = s.world.2 := by
    cases h with
    | intro ready usable written => exact prepared_record w ready
  obtain ⟨s'', ran, world⟩ := send_tunnel_of_carries w.watched h
  refine ⟨.carried g (w.carry g s'.world.1).1, s'', rfl, ran, ?_, ?_⟩
  · rw [world, ← before]
    rfl
  · have mine : ∀ e ∈ [] ++ [Departure.carried g (w.carry g s'.world.1).1], e.transport = .tunnel := by
      simp [Departure.transport]
    exact .last mine

/-- A deadline that cannot be written stops the tunnel's stage before anything departs. -/
theorem send_tunnel_unwritten {c : Call} {s' : Session (Watched σ)}
    (ready : Prepared w.watched context r s (.ok c) s')
    (usable : Openable s'.client c.endpoint.tunnelAddress)
    (unwritten : Rpc.Deadline.write? c.timeout = none) :
    ∃ s'', Act.on (send w.watched .tunnel context r) s = (.error .deadlineTooLong, s'') ∧
      s''.world.2 = s.world.2 := by
  obtain ⟨f, a, checks, _⟩ | ⟨d, a, checks, sent⟩ := send_cases w.watched .tunnel context r s
  · cases (checks.unique w.watched ready).1
  · obtain ⟨same, rfl⟩ := checks.unique w.watched ready
    cases same
    have none_fits : c.carriage? a.client.messageLimit = none := by
      simp [Call.carriage?, unwritten]
    have before := prepared_record w ready
    rw [sent, attempts, sendTunnel_on, if_pos usable, none_fits]
    exact ⟨_, rfl, before⟩

end Client
end Courier
