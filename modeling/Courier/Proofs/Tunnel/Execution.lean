import Courier.Tunnel.Execution
/-!
What a call of the tunnel can come to.  `Ends` lists the ends of a call that nobody drops, each with its
time, and `Executed` the three courses of an execution: turned away before anything is entered, turned away
for its message, or handed to the service, once.  Later statements go through these two and leave the
definitions closed.
-/
namespace Courier.Tunnel

/-! ### The end of a call that nobody drops -/

/-- How the message for a broken body begins. -/
def brokenOpening : String := "failed to read handler body: "

/-- The status of an endpoint without a route. -/
def unrouted (endpoint : String) : Rpc.Status :=
  .plain .unimplemented (Rpc.unregisteredEndpoint ++ ": " ++ endpoint)

/-- A response whose head came in time, by the way its body ends. -/
def responded (v : Served) : CallEnd × Option Duration :=
  match v.bodyEnd with
  | .complete => (.answered ⟨v.response.body, v.response.status.code⟩, some (v.delay.add v.bodyDelay))
  | .broken detail => (.failed (.plain .internal (brokenOpening ++ detail)), some (v.delay.add v.bodyDelay))
  | .endless => (.pending, none)

/-- A timer goes off on a whole millisecond of the clock, not before its span is over and less than a
millisecond after that. -/
theorem timerTick_bounds (now : Nat) (d : Duration) :
    d.nanos ≤ (timerTick now d).nanos ∧ (timerTick now d).nanos < d.nanos + Duration.perMilli ∧
      Duration.perMilli ∣ now + (timerTick now d).nanos := by
  obtain ⟨ticks, reached, soon, same⟩ : ∃ ticks, now + d.nanos ≤ ticks * Duration.perMilli ∧
      ticks * Duration.perMilli < now + d.nanos + Duration.perMilli ∧
      (timerTick now d).nanos = ticks * Duration.perMilli - now := by
    refine ⟨(now + d.nanos + (Duration.perMilli - 1)) / Duration.perMilli, ?_, ?_, rfl⟩
    all_goals
      simp only [Duration.perMilli]
      omega
  have waited : now + (timerTick now d).nanos = ticks * Duration.perMilli := by omega
  refine ⟨by omega, by omega, ?_⟩
  rw [waited]
  exact Nat.dvd_mul_left ..

/-- The head of a response comes before the deadline goes off. -/
def HeadInTime (now : Instant) (limit : Option Duration) (v : Served) : Prop :=
  ∀ d, limit = some d → (timerTick now d).lt v.delay = false

section

variable (endpoint : String) {now : Instant} {limit : Option Duration} {v : Served}

theorem undisturbed_late (late : ¬ HeadInTime now limit v) :
    ∃ d, limit = some d ∧
      undisturbed endpoint now limit (.served v) = (.failed (expired d), some (timerTick now d)) := by
  obtain ⟨d, some_limit, late⟩ : ∃ d, limit = some d ∧ (timerTick now d).lt v.delay = true := by
    simpa [HeadInTime] using late
  refine ⟨d, some_limit, ?_⟩
  have kept : limit.filter (fun d => (timerTick now d).lt v.delay) = some d := by
    simp [some_limit, Option.filter, late]
  simp only [undisturbed, kept]

theorem undisturbed_inTime (inTime : HeadInTime now limit v) :
    undisturbed endpoint now limit (.served v) =
      if v.registered then responded v else (.failed (unrouted endpoint), some v.delay) := by
  have passed : limit.filter (fun d => (timerTick now d).lt v.delay) = none := by
    cases limit with
    | none => rfl
    | some d => simp [Option.filter, inTime d rfl]
  simp only [undisturbed, passed]
  cases v.registered with
  | false => rfl
  | true =>
    simp only [Bool.not_true, Bool.false_eq_true, if_false, if_true, responded]
    cases v.bodyEnd <;> rfl

end

/-- The ends of a call that nobody drops, with the moment of each. -/
inductive Ends (endpoint : String) (now : Instant) (limit : Option Duration) :
    Ending → CallEnd × Option Duration → Prop where
  | panicked : Ends endpoint now limit .panicked (.panicked, some .zero)
  | expired {d : Duration} {ending : Ending} (given : limit = some d) (calm : ending ≠ .panicked)
      (late : ∀ v, ending = .served v → ¬ HeadInTime now limit v) :
      Ends endpoint now limit ending (.failed (expired d), some (timerTick now d))
  | silent (unlimited : limit = none) : Ends endpoint now limit .silent (.pending, none)
  | unrouted {v : Served} (inTime : HeadInTime now limit v) (unregistered : v.registered = false) :
      Ends endpoint now limit (.served v) (.failed (unrouted endpoint), some v.delay)
  | responded {v : Served} (inTime : HeadInTime now limit v) (registered : v.registered = true) :
      Ends endpoint now limit (.served v) (responded v)

theorem undisturbed_ends (endpoint : String) (now : Instant) (limit : Option Duration) (ending : Ending) :
    Ends endpoint now limit ending (undisturbed endpoint now limit ending) := by
  cases ending with
  | panicked => exact .panicked
  | silent =>
    cases limit with
    | none => exact .silent rfl
    | some d => exact .expired rfl nofun nofun
  | served v =>
    by_cases inTime : HeadInTime now limit v
    · rw [undisturbed_inTime endpoint inTime]
      cases routed : v.registered with
      | false => exact .unrouted inTime routed
      | true => exact .responded inTime routed
    · obtain ⟨d, given, ended⟩ := undisturbed_late endpoint inTime
      rw [ended]
      refine .expired given nofun fun w same => ?_
      cases same
      exact inTime

/-- A call whose end has a moment does end. -/
theorem Ends.not_pending {endpoint : String} {now : Instant} {limit : Option Duration} {ending : Ending}
    {ended : CallEnd × Option Duration} (ends : Ends endpoint now limit ending ended) {t : Duration}
    (timed : ended.2 = some t) : ended.1 ≠ .pending := by
  cases ends with
  | silent _ => cases timed
  | @responded v _ _ =>
    unfold Tunnel.responded at timed ⊢
    cases bodyEnd : v.bodyEnd with
    | endless =>
      rw [bodyEnd] at timed
      cases timed
    | complete => nofun
    | broken detail => nofun
  | panicked => nofun
  | expired _ _ _ => nofun
  | unrouted _ _ => nofun

/-- A call comes to its own end while its peer is there, or is dropped; one that has no end and is not
dropped goes on. -/
theorem dropAfter_cases (cancel : Option Duration) (ended : CallEnd × Option Duration) :
    (∃ t, ended.2 = some t ∧ (∀ c, cancel = some c → t.le c = true) ∧
      dropAfter cancel ended = (ended.1, t)) ∨
    (∃ c, cancel = some c ∧ (∀ t, ended.2 = some t → t.le c = false) ∧
      dropAfter cancel ended = (.dropped, c)) ∨
    (cancel = none ∧ ended.2 = none ∧ dropAfter cancel ended = (ended.1, .zero)) := by
  obtain ⟨e, t⟩ := ended
  cases cancel with
  | none =>
    cases t with
    | none => exact .inr (.inr ⟨rfl, rfl, rfl⟩)
    | some t => exact .inl ⟨t, rfl, nofun, rfl⟩
  | some c =>
    cases t with
    | none => exact .inr (.inl ⟨c, rfl, nofun, rfl⟩)
    | some t =>
      cases inTime : t.le c with
      | true => exact .inl ⟨t, rfl, fun _ same => Option.some.inj same ▸ inTime, by simp [dropAfter, inTime]⟩
      | false =>
        exact .inr (.inl ⟨c, rfl, fun _ same => Option.some.inj same ▸ inTime, by simp [dropAfter, inTime]⟩)

/-- A response that its peer gets to see: its head comes in time, and its peer waits for the whole body. -/
structure Arrives (now : Instant) (limit cancel : Option Duration) (v : Served) : Prop where
  registered : v.registered = true
  head : HeadInTime now limit v
  whole : v.bodyEnd = .complete
  waited : ∀ c, cancel = some c → (v.delay.add v.bodyDelay).le c = true

theorem Ends.answered {endpoint : String} {now : Instant} {limit : Option Duration} {ending : Ending}
    {ended : CallEnd × Option Duration} (ends : Ends endpoint now limit ending ended) {reply : Reply}
    (h : ended.1 = .answered reply) :
    ∃ v, ending = .served v ∧ v.registered = true ∧ HeadInTime now limit v ∧ v.bodyEnd = .complete ∧
      ended = (.answered ⟨v.response.body, v.response.status.code⟩, some (v.delay.add v.bodyDelay)) := by
  cases ends with
  | panicked => cases h
  | expired _ _ _ => cases h
  | silent _ => cases h
  | unrouted _ _ => cases h
  | @responded v inTime routed =>
    unfold Tunnel.responded at h ⊢
    cases whole : v.bodyEnd with
    | complete => exact ⟨v, rfl, routed, inTime, whole, rfl⟩
    | broken detail =>
      rw [whole] at h
      cases h
    | endless =>
      rw [whole] at h
      cases h

/-- A call is answered with the response that arrives, at its last byte. -/
theorem answered_iff {endpoint : String} {now : Instant} {limit cancel : Option Duration} {ending : Ending}
    {reply : Reply} {t : Duration} :
    dropAfter cancel (undisturbed endpoint now limit ending) = (.answered reply, t) ↔
      ∃ v, ending = .served v ∧ Arrives now limit cancel v ∧
        reply = ⟨v.response.body, v.response.status.code⟩ ∧ t = v.delay.add v.bodyDelay := by
  have ends := undisturbed_ends endpoint now limit ending
  constructor
  · intro answered
    rcases dropAfter_cases cancel (undisturbed endpoint now limit ending) with
      ⟨t', timed, inTime, same⟩ | ⟨c, _, _, same⟩ | ⟨_, untimed, same⟩
    · rw [same] at answered
      obtain ⟨own, rfl⟩ := Prod.ext_iff.mp answered
      obtain ⟨v, served, routed, head, whole, ended⟩ := ends.answered own
      rw [ended] at own timed
      cases own
      cases timed
      exact ⟨v, served, ⟨routed, head, whole, inTime⟩, rfl, rfl⟩
    · rw [same] at answered
      cases answered
    · rw [same] at answered
      obtain ⟨own, _⟩ := Prod.ext_iff.mp answered
      obtain ⟨v, _, _, _, _, ended⟩ := ends.answered own
      rw [ended] at untimed
      cases untimed
  · rintro ⟨v, rfl, arrives, rfl, rfl⟩
    rw [undisturbed_inTime endpoint arrives.head, arrives.registered, if_pos rfl, responded, arrives.whole]
    cases cancel with
    | none => rfl
    | some c => simp only [dropAfter, arrives.waited c rfl, if_true]

/-! ### An execution -/

section

variable {σ : Type} (service : Service σ) (boundary : String) (now : Instant) (limit : Option Duration)
  (peer : Option String) (m : Message) (cancel : Option Duration) (tracker : Tracker) (world : σ)

/-- A call whose request has been handed to the service. -/
def course (request : Inbound) : Execution σ :=
  let ended := dropAfter cancel (undisturbed m.endpointText now limit (service request world).1)
  { ending := ended.1
    elapsed := ended.2
    records := writtenBy ended.2 (service request world).1 ++ recordsOf m peer limit ended.2 ended.1
    entered := true
    tracker := match ended.1 with
      | .pending => tracker.enter now peer
      | _ => (tracker.enter now peer).leave (now + ended.2.nanos) peer
    world := (service request world).2 }

theorem course_answered_iff {request : Inbound} {reply : Reply} {t : Duration} :
    ((course service now limit peer m cancel tracker world request).ending = .answered reply ∧
      (course service now limit peer m cancel tracker world request).elapsed = t) ↔
      ∃ v, (service request world).1 = .served v ∧ Arrives now limit cancel v ∧
        reply = ⟨v.response.body, v.response.status.code⟩ ∧ t = v.delay.add v.bodyDelay :=
  Prod.ext_iff.symm.trans answered_iff

/-- A call that is let in, with the time that it is given. -/
def executeWithin : Execution σ :=
  match m.inbound? boundary peer with
  | .error status => turnedAway m peer limit true ((tracker.enter now peer).leave now peer) world status
  | .ok request => course service now limit peer m cancel tracker world request

/-- Only a call that is framed as it should be and whose time can be read is let in. -/
inductive Refuses (metadata : Http.Headers) : Rpc.Status → Prop where
  | unframed {status : Rpc.Status} (turned : checkFraming metadata = .error status) : Refuses metadata status
  | untimed {status : Rpc.Status} (framed : checkFraming metadata = .ok ())
      (turned : deadline? metadata = .error status) : Refuses metadata status

/-- The courses of an execution. -/
inductive Executed (metadata : Http.Headers) : Execution σ → Prop where
  | refused {status : Rpc.Status} (turned : Refuses metadata status) :
      Executed metadata (turnedAway m peer none false tracker world status)
  | unread {limit : Option Duration} {status : Rpc.Status} (framed : checkFraming metadata = .ok ())
      (allowed : deadline? metadata = .ok limit) (unread : m.inbound? boundary peer = .error status) :
      Executed metadata
        (turnedAway m peer limit true ((tracker.enter now peer).leave now peer) world status)
  | ran {limit : Option Duration} {request : Inbound} (framed : checkFraming metadata = .ok ())
      (allowed : deadline? metadata = .ok limit) (taken : m.inbound? boundary peer = .ok request) :
      Executed metadata (course service now limit peer m cancel tracker world request)

variable {metadata : Http.Headers}

theorem execute_of_refused {status : Rpc.Status} (turned : Refuses metadata status) :
    execute service boundary now metadata peer m cancel tracker world =
      turnedAway m peer none false tracker world status := by
  cases turned with
  | unframed turned => simp only [execute, turned]
  | untimed framed turned => simp only [execute, framed, turned]

theorem execute_of_allowed {limit : Option Duration} (framed : checkFraming metadata = .ok ())
    (allowed : deadline? metadata = .ok limit) :
    execute service boundary now metadata peer m cancel tracker world =
      executeWithin service boundary now limit peer m cancel tracker world := by
  simp only [execute, framed, allowed, executeWithin]
  cases m.inbound? boundary peer with
  | error status => rfl
  | ok request => rfl

variable (metadata)

theorem execute_executed :
    Executed service boundary now peer m cancel tracker world metadata
      (execute service boundary now metadata peer m cancel tracker world) := by
  cases framed : checkFraming metadata with
  | error status =>
    rw [execute_of_refused service boundary now peer m cancel tracker world (.unframed framed)]
    exact .refused (.unframed framed)
  | ok _ =>
    cases allowed : deadline? metadata with
    | error status =>
      rw [execute_of_refused service boundary now peer m cancel tracker world (.untimed framed allowed)]
      exact .refused (.untimed framed allowed)
    | ok limit =>
      rw [execute_of_allowed service boundary now peer m cancel tracker world framed allowed, executeWithin]
      cases taken : m.inbound? boundary peer with
      | error status => exact .unread framed allowed taken
      | ok request => exact .ran framed allowed taken

/-- What an execution can come to. -/
inductive Concludes (metadata : Http.Headers) : CallEnd → Prop where
  | refused {status : Rpc.Status} (turned : Refuses metadata status) : Concludes metadata (.failed status)
  | unread {status : Rpc.Status} (unread : m.inbound? boundary peer = .error status) :
      Concludes metadata (.failed status)
  | dropped : Concludes metadata .dropped
  | ran {limit : Option Duration} {request : Inbound} {ended : CallEnd × Option Duration}
      (ends : Ends m.endpointText now limit (service request world).1 ended) : Concludes metadata ended.1

theorem execute_concludes :
    Concludes service boundary now peer m world metadata
      (execute service boundary now metadata peer m cancel tracker world).ending := by
  have executed := execute_executed service boundary now peer m cancel tracker world metadata
  generalize execute service boundary now metadata peer m cancel tracker world = e at executed ⊢
  cases executed with
  | refused turned => exact .refused turned
  | unread _ _ unread => exact .unread unread
  | @ran limit request _ _ _ =>
    have ends := undisturbed_ends m.endpointText now limit (service request world).1
    change Concludes service boundary now peer m world metadata (dropAfter cancel _).1
    rcases dropAfter_cases cancel (undisturbed m.endpointText now limit (service request world).1) with
      ⟨t, _, _, same⟩ | ⟨c, _, _, same⟩ | ⟨_, _, same⟩
    · rw [same]
      exact .ran ends
    · rw [same]
      exact .dropped
    · rw [same]
      exact .ran ends

end

/-! ### What is written down -/

/-- The time that a call is given; none if it is turned away before that is settled. -/
def allowance (metadata : Http.Headers) : Option Duration :=
  match checkFraming metadata, deadline? metadata with
  | .ok _, .ok limit => limit
  | _, _ => none

theorem allowance_of_refused {metadata : Http.Headers} {status : Rpc.Status}
    (turned : Refuses metadata status) : allowance metadata = none := by
  cases turned with
  | unframed turned => simp only [allowance, turned]
  | untimed framed turned => simp only [allowance, framed, turned]

theorem allowance_of_allowed {metadata : Http.Headers} {limit : Option Duration}
    (framed : checkFraming metadata = .ok ()) (allowed : deadline? metadata = .ok limit) :
    allowance metadata = limit := by
  simp only [allowance, framed, allowed]

theorem recordsOf_ended {ended : CallEnd} (finished : ended ≠ .pending) (m : Message) (peer : Option String)
    (limit : Option Duration) (elapsed : Duration) :
    recordsOf m peer limit elapsed ended = [record m peer (loggedStatus limit elapsed ended) elapsed] := by
  cases ended with
  | pending => exact absurd rfl finished
  | _ => rfl

theorem mem_writtenBy {elapsed : Duration} {ending : Ending} {a : AccessRecord}
    (member : a ∈ writtenBy elapsed ending) : ∃ v, ending = .served v ∧ a ∈ v.records := by
  cases ending with
  | served v =>
    simp only [writtenBy] at member
    split at member
    · exact ⟨v, rfl, member⟩
    · cases member
  | panicked => cases member
  | silent => cases member

/-- The records of an execution are what the service itself wrote, and then the one of the call. -/
theorem execute_records {σ : Type} (service : Service σ) (boundary : String) (now : Instant)
    (metadata : Http.Headers) (peer : Option String) (m : Message) (cancel : Option Duration)
    (tracker : Tracker) (world : σ) :
    let e := execute service boundary now metadata peer m cancel tracker world
    ∃ before, e.records = before ++ recordsOf m peer (allowance metadata) e.elapsed e.ending ∧
      ∀ a ∈ before, ∃ request v, m.inbound? boundary peer = .ok request ∧
        (service request world).1 = .served v ∧ a ∈ v.records := by
  intro e
  have executed : Executed service boundary now peer m cancel tracker world metadata e :=
    execute_executed ..
  clear_value e
  cases executed with
  | refused turned => exact ⟨[], by rw [allowance_of_refused turned]; rfl, nofun⟩
  | unread framed allowed _ => exact ⟨[], by rw [allowance_of_allowed framed allowed]; rfl, nofun⟩
  | ran framed allowed taken =>
    refine ⟨_, by rw [allowance_of_allowed framed allowed]; rfl, fun a member => ?_⟩
    obtain ⟨v, served, written⟩ := mem_writtenBy member
    exact ⟨_, v, taken, served, written⟩

end Courier.Tunnel
