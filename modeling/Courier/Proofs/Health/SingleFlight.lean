import Courier.Proofs.Health.Gate
/-!
What a health cache promises, whatever its callers and probes do.  Probes never overlap, and from the end
of one to the beginning of the next the time to live passes unless the status was invalidated; every
caller is told what its own probe found or what was found last and is still good.  A caller that gives up
during its probe leaves what is remembered as it was, and whoever waits gets a turn in order.
-/
namespace Courier.Health

namespace Gate

variable {g : Gate} {c : Caller} {place : Nat}

/-- A serving that finds the gate free. -/
def opens (g : Gate) (e : GateEvent) : Nat := if e = .serve ∧ g.probing = none then 1 else 0

/-- How often events let the first in the queue in. -/
def openings (g : Gate) (events : List GateEvent) : Nat := recorder.total opens g events

/-- A caller is at the gate: in the queue, or with a probe under way. -/
def Waits (g : Gate) (c : Caller) : Prop := c ∈ g.queue ∨ g.probing = some c.id

/-- The first that is let in is told something, or its probe begins. -/
theorem serve_first {rest : List Caller} (free : g.probing = none) (first : g.queue = c :: rest) :
    (recorder.step g .serve).queue = rest ∧
      ((∃ n ∈ recorder.notes g .serve, n.what.Tells c.id) ∨
        (recorder.step g .serve).probing = some c.id ∧
          ∃ n ∈ recorder.notes g .serve, n.what.Serves c.id) := by
  obtain ⟨id, wish⟩ := c
  cases wish with
  | peek => simp [recorder, step, serve, free, first, ending, beginning, GateNote.Tells]
  | invalidate => simp [recorder, step, serve, free, first, ending, beginning, GateNote.Tells]
  | status =>
    cases known : g.cache.fresh? g.now with
    | some s => simp [recorder, step, serve, free, first, known, ending, beginning, GateNote.Tells]
    | none => simp [recorder, step, serve, free, first, known, ending, beginning, GateNote.Serves]

/-- With each event a caller that waits gets its turn, or keeps its place but for those who were let in
before it. -/
theorem place_step (waits : g.queue[place]? = some c) {e : GateEvent} (stays : e ≠ .leave c.id) :
    (∃ n ∈ recorder.notes g e, n.what.Serves c.id) ∨
      ∃ place', place' + g.opens e ≤ place ∧ (recorder.step g e).queue[place']? = some c := by
  cases e with
  | arrive x =>
    obtain ⟨inside, _⟩ := List.getElem?_eq_some_iff.mp waits
    refine .inr ⟨place, by simp [opens], ?_⟩
    change (g.queue ++ [x])[place]? = some c
    rw [List.getElem?_append_left inside, waits]
  | serve =>
    cases free : g.probing with
    | some id =>
      refine .inr ⟨place, by simp [opens, free], ?_⟩
      simpa [recorder, step, free] using waits
    | none =>
      cases first : g.queue with
      | nil => simp [first] at waits
      | cons x rest =>
        obtain ⟨behind, served⟩ := serve_first free first
        rw [first] at waits
        cases place with
        | zero =>
          obtain rfl : x = c := by simpa using waits
          obtain ⟨n, noted, told⟩ | ⟨_, began⟩ := served
          · exact .inl ⟨n, noted, told.serves⟩
          · exact .inl began
        | succ place => exact .inr ⟨place, by simp [opens, free], by rw [behind]; simpa using waits⟩
  | finish status =>
    refine .inr ⟨place, by simp [opens], ?_⟩
    cases held : g.probing <;> simpa [recorder, step, held] using waits
  | leave id =>
    have other : (c.id != id) = true := by
      rw [bne_iff_ne]
      rintro rfl
      exact stays rfl
    obtain ⟨place', up, found⟩ := place_filter (fun x => x.id != id) waits other
    exact .inr ⟨place', by simpa [opens] using up, found⟩
  | pass d => exact .inr ⟨place, by simp [opens], waits⟩

/-- With each event a caller at the gate stays there, or it is told something. -/
theorem waits_step (waits : g.Waits c) {e : GateEvent} (stays : e ≠ .leave c.id) :
    (recorder.step g e).Waits c ∨ ∃ n ∈ recorder.notes g e, n.what.Tells c.id := by
  cases e with
  | arrive x => exact .inl (waits.imp_left (List.mem_append_left [x]))
  | serve =>
    cases free : g.probing with
    | some id => exact .inl (by simpa [Waits, recorder, step, free] using waits)
    | none =>
      have queued : c ∈ g.queue := waits.resolve_right (by simp [free])
      cases first : g.queue with
      | nil => simp [first] at queued
      | cons x rest =>
        obtain ⟨behind, served⟩ := serve_first free first
        rw [first] at queued
        obtain rfl | later := List.mem_cons.mp queued
        · exact served.symm.imp_left fun began => .inr began.1
        · exact .inl (.inl (behind.symm ▸ later))
  | finish status =>
    cases held : g.probing with
    | none => exact .inl (by simpa [Waits, recorder, step, held] using waits)
    | some id =>
      obtain queued | probing := waits
      · exact .inl (.inl (by simpa [recorder, step, held] using queued))
      · obtain rfl : id = c.id := by simpa [held] using probing
        exact .inr (by simp [recorder, step, held, ending, beginning, GateNote.Tells])
  | leave id =>
    have other : id ≠ c.id := fun same => stays (same ▸ rfl)
    refine .inl (waits.imp (fun queued => ?_) fun probing => ?_)
    · exact List.mem_filter.mpr ⟨queued, by simpa using Ne.symm other⟩
    · have away : g.probing ≠ some id := by simpa [probing] using Ne.symm other
      simpa [recorder, step, away] using probing
  | pass d => exact .inl waits

/-- A caller gets its turn once the gate has been open to more callers than waited before it. -/
theorem served_in_turn (waits : g.queue[place]? = some c) {events : List GateEvent}
    (stays : GateEvent.leave c.id ∉ events) (turns : place < g.openings events) :
    ∃ n ∈ (recorder.run g events).2, n.what.Serves c.id :=
  recorder.in_turn (fun _ _ _ waits stays => place_step waits stays) waits
    (fun _ member => ne_of_mem_of_not_mem member stays) turns

/-- A caller that arrives is at the gate until it is told something. -/
theorem attended (g : Gate) (c : Caller) {events : List GateEvent} (stays : GateEvent.leave c.id ∉ events) :
    (recorder.run (recorder.step g (.arrive c)) events).1.Waits c ∨
      ∃ n ∈ (recorder.run (recorder.step g (.arrive c)) events).2, n.what.Tells c.id := by
  have each (g : Gate) (e : GateEvent) (waits : g.Waits c) (stays : e ≠ .leave c.id) :
      (recorder.step g e).Waits c ∨ ∃ n ∈ recorder.notes g e, n.what.Tells c.id :=
    waits_step waits stays
  have arrived : (recorder.step g (.arrive c)).Waits c :=
    .inl (List.mem_append_right g.queue (List.mem_singleton_self c))
  exact recorder.waits_or_done each arrived fun _ member => ne_of_mem_of_not_mem member stays

/-- Giving up lets go of the gate and changes nothing that is remembered. -/
theorem leave_releases {id : Nat} (held : g.probing = some id) :
    (recorder.step g (.leave id)).cache = g.cache ∧ (recorder.step g (.leave id)).probing = none := by
  simp [recorder, step, held]

end Gate

/-- The promises of a cache whose log and gate these are. -/
structure SingleFlight (ttl : Duration) (g : Gate) (log : GateLog) : Prop where
  /-- At every moment at most one probe is under way. -/
  alone : ∀ before, before <+: log → (underWay before).length ≤ 1
  /-- A probe begins when no other is under way and nothing is remembered that is younger than the time
  to live; only a probe that is under way ends. -/
  lawful : Orderly (Flight.Allowed ttl) (marks log)
  /-- From the end of a probe to the beginning of a later one the time to live passes, unless the status
  was invalidated in between. -/
  apart : ∀ u c s t v c' now w, log = u ++ ⟨t, .found c s⟩ :: v ++ ⟨now, .began c'⟩ :: w →
    (∀ e ∈ v, ∀ caller, e.what ≠ .told caller .invalidated) → t + ttl.nanos ≤ now
  /-- Callers are told what stands, or what they found themselves. -/
  truthful : Orderly (Truthful ttl) log
  /-- What is remembered is what was found last, whatever it was. -/
  stored : g.cache.stored = (standing log).map fun o => ⟨o.what, o.time⟩
  /-- A caller that gives up during its probe changes nothing that is remembered, and lets go. -/
  released : ∀ id, g.probing = some id →
    (g.step (.leave id)).1.cache = g.cache ∧ (g.step (.leave id)).1.probing = none
  /-- A caller that waits gets its turn as soon as the gate has been open once for each caller before
  it and once more, whoever gives up meanwhile. -/
  inTurn : ∀ place c events, g.queue[place]? = some c → GateEvent.leave c.id ∉ events →
    place < g.openings events → ∃ n ∈ (Gate.recorder.run g events).2, n.what.Serves c.id
  /-- A caller that has arrived, and has not given up since, waits or probes, or it was told something. -/
  attended : ∀ c events, GateEvent.leave c.id ∉ events →
    let after := Gate.recorder.run (Gate.recorder.step g (.arrive c)) events
    after.1.Waits c ∨ ∃ n ∈ after.2, n.what.Tells c.id

theorem Kept.apart {ttl : Duration} {g : Gate} {log : GateLog} (h : Kept ttl g log)
    {u v w : GateLog} {c c' : Nat} {s : HealthStatus} {t now : Instant}
    (split : log = u ++ ⟨t, .found c s⟩ :: v ++ ⟨now, .began c'⟩ :: w)
    (remembered : ∀ e ∈ v, ∀ caller, e.what ≠ .told caller .invalidated) : t + ttl.nanos ≤ now := by
  have ascending : Flight.Ascending (marks log) := List.pairwise_map.mpr h.ascending
  have marked : marks log =
      marks u ++ ⟨t, .kept c s⟩ :: marks v ++ ⟨now, .began c'⟩ :: marks w := by
    rw [split]
    simp [marks, GateNote.mark]
  refine Flight.began_after_kept h.lawful ascending marked fun x member => ?_
  obtain ⟨⟨time, note⟩, among, rfl⟩ := List.mem_map.mp member
  have other := remembered _ among
  cases note with
  | told caller answer =>
    cases answer with
    | invalidated => exact absurd rfl (other caller)
    | status value => nofun
    | peeked value => nofun
  | began c => nofun
  | found c s => nofun
  | gaveUp c => nofun

/-- A health cache keeps its promises over every run. -/
theorem single_flight (ttl : Duration) (start : Instant) (events : List GateEvent) :
    SingleFlight ttl (Gate.recorder.run { cache := { ttl := ttl }, now := start } events).1
      (Gate.recorder.run { cache := { ttl := ttl }, now := start } events).2 := by
  have kept := Kept.run ttl start events
  exact {
    alone := by
      rintro before ⟨after, split⟩
      have lawful := kept.lawful
      rw [← split, marks_append] at lawful
      exact Flight.underWay_length lawful.initial
    lawful := kept.lawful
    apart := fun u c s t v c' now w split remembered => kept.apart split remembered
    truthful := kept.truthful
    stored := kept.stored
    released := fun id held => Gate.leave_releases held
    inTurn := fun place c events waits stays turns => Gate.served_in_turn waits stays turns
    attended := fun c events stays => Gate.attended _ c stays }

/-- A probe that failed is remembered like any other; a caller that gives up during its probe lets the next
one probe. -/
example :
    let call (id : Nat) (wish : Wish) : GateEvent := .arrive ⟨id, wish⟩
    (Gate.recorder.run { cache := { ttl := .ofSeconds 10 } }
        [call 0 .status, call 1 .status, .serve, .finish .unknown, .serve, .pass (.ofSeconds 10),
          call 2 .status, call 3 .status, call 4 .peek, .serve, .leave 2, .serve, .finish .serving,
          .serve]).2.map Stamped.what =
      [.began 0, .found 0 .unknown, .told 0 (.status .unknown), .told 1 (.status .unknown),
        .began 2, .gaveUp 2, .began 3, .found 3 .serving, .told 3 (.status .serving),
        .told 4 (.peeked (some .serving))] := by
  decide

end Courier.Health
