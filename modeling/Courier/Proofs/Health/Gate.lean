import Courier.Health.Gate
import Courier.Proofs.Flight
/-!
One health cache and its many readers, over every run of events: callers of all kinds that come, are
served and give up at any time, probes that take any time and say anything.  `Gate.recorder` notes when
probes begin and end and what callers are told; `standing` is then the status that was found last, unless
it was invalidated since.  `single_flight` says what holds of every log, and of the gate that it leaves.
-/
namespace Courier.Health

/-- What is noted of a gate. -/
inductive GateNote where
  | began (caller : Nat)
  /-- The caller's probe ended and said this. -/
  | found (caller : Nat) (status : HealthStatus)
  /-- The caller gave up while its probe was under way. -/
  | gaveUp (caller : Nat)
  | told (caller : Nat) (answer : GateAnswer)
  deriving DecidableEq, Repr

abbrev GateLog := List (Stamped GateNote)

namespace GateNote

/-- What a note says of the status that is remembered. -/
def mark : GateNote → Flight.Mark HealthStatus
  | .began c => .began c
  | .found c s => .kept c s
  | .gaveUp c => .dropped c
  | .told _ .invalidated => .forgotten
  | .told _ _ => .aside

/-- A caller gets its turn: it is told something, or its probe begins. -/
def Serves (caller : Nat) : GateNote → Prop
  | .began c | .told c _ => c = caller
  | _ => False

/-- The caller is told something. -/
def Tells (caller : Nat) : GateNote → Prop
  | .told c _ => c = caller
  | _ => False

theorem Tells.serves {caller : Nat} {note : GateNote} (tells : note.Tells caller) : note.Serves caller := by
  cases note with
  | told c answer => exact tells
  | began | found | gaveUp => exact tells.elim

end GateNote

def marks (log : GateLog) : List (Stamped (Flight.Mark HealthStatus)) :=
  log.map fun e => ⟨e.time, e.what.mark⟩

/-- The status that was found last, with the time when, unless it was invalidated since. -/
def standing (log : GateLog) : Option (Stamped HealthStatus) := Flight.standing (marks log)

/-- The callers whose probes have begun and not ended. -/
def underWay (log : GateLog) : List Nat := Flight.underWay (marks log)

namespace Gate

/-- How the probe under way ends with an event, if it does. -/
def ending (g : Gate) : GateEvent → List GateNote
  | .finish status => (g.probing.map fun c => GateNote.found c status).toList
  | .leave id => if g.probing = some id then [.gaveUp id] else []
  | _ => []

/-- The probe that began between two states, if one did. -/
def beginning (g g' : Gate) : List GateNote :=
  if g.probes < g'.probes then (g'.probing.map GateNote.began).toList else []

def recorder : Recorder Gate GateEvent (Stamped GateNote) where
  step g e := (g.step e).1
  notes g e :=
    let (g', answers) := g.step e
    (g.ending e ++ (answers.map fun a => GateNote.told a.1 a.2) ++ g.beginning g').map
      fun note => ⟨g'.now, note⟩

/-- Everything that an event can do at a gate. -/
inductive Does (g : Gate) : Gate → GateLog → Prop where
  | waits (queue : List Caller) (now : Instant) (later : g.now ≤ now) :
      Does g { g with queue := queue, now := now } []
  | gaveUp {id : Nat} (queue : List Caller) (held : g.probing = some id) :
      Does g { g with probing := none, queue := queue } [⟨g.now, .gaveUp id⟩]
  | found {id : Nat} (status : HealthStatus) (held : g.probing = some id) :
      Does g { g with probing := none, cache := g.cache.record status g.now }
        [⟨g.now, .found id status⟩, ⟨g.now, .told id (.status status)⟩]
  | peeked {c : Caller} {rest : List Caller} (free : g.probing = none) :
      Does g { g with queue := rest } [⟨g.now, .told c.id (.peeked g.cache.peek)⟩]
  | invalidated {c : Caller} {rest : List Caller} (free : g.probing = none) :
      Does g { g with queue := rest, cache := g.cache.forget } [⟨g.now, .told c.id .invalidated⟩]
  | recalled {c : Caller} {rest : List Caller} {s : HealthStatus} (free : g.probing = none)
      (fresh : g.cache.fresh? g.now = some s) :
      Does g { g with queue := rest } [⟨g.now, .told c.id (.status s)⟩]
  | began {c : Caller} {rest : List Caller} (free : g.probing = none)
      (stale : g.cache.fresh? g.now = none) :
      Does g { g with queue := rest, probing := some c.id, probes := g.probes + 1 }
        [⟨g.now, .began c.id⟩]

/-- The first in the queue of a free gate is served. -/
theorem does_serve {g : Gate} {c : Caller} {rest : List Caller} (free : g.probing = none)
    (first : g.queue = c :: rest) : Does g (recorder.step g .serve) (recorder.notes g .serve) := by
  obtain ⟨id, wish⟩ := c
  cases wish with
  | peek =>
    have did : Does g { g with queue := rest } _ := .peeked (c := ⟨id, .peek⟩) free
    simpa [recorder, step, serve, free, first, ending, beginning] using did
  | invalidate =>
    have did : Does g { g with queue := rest, cache := g.cache.forget } _ :=
      .invalidated (c := ⟨id, .invalidate⟩) free
    simpa [recorder, step, serve, free, first, ending, beginning] using did
  | status =>
    cases known : g.cache.fresh? g.now with
    | some s =>
      have did : Does g { g with queue := rest } _ := .recalled (c := ⟨id, .status⟩) free known
      simpa [recorder, step, serve, free, first, known, ending, beginning] using did
    | none =>
      have did : Does g { g with queue := rest, probing := some id, probes := g.probes + 1 } _ :=
        .began (c := ⟨id, .status⟩) free known
      simpa [recorder, step, serve, free, first, known, ending, beginning] using did

theorem does (g : Gate) (e : GateEvent) : Does g (recorder.step g e) (recorder.notes g e) := by
  have idle : Does g g [] := .waits g.queue g.now (Nat.le_refl _)
  cases e with
  | arrive c =>
    have did : Does g { g with queue := g.queue ++ [c] } [] := .waits _ g.now (Nat.le_refl _)
    simpa [recorder, step, ending, beginning] using did
  | serve =>
    cases held : g.probing with
    | some id => simpa [recorder, step, held, ending, beginning] using idle
    | none =>
      cases first : g.queue with
      | nil => simpa [recorder, step, held, first, ending, beginning] using idle
      | cons c rest => exact does_serve held first
  | finish status =>
    cases held : g.probing with
    | none => simpa [recorder, step, held, ending, beginning] using idle
    | some id =>
      have did := Does.found status held
      simpa [recorder, step, held, ending, beginning] using did
  | leave id =>
    by_cases held : g.probing = some id
    · have did := Does.gaveUp (g.queue.filter fun c => c.id != id) held
      simpa [recorder, step, held, ending, beginning] using did
    · have did : Does g { g with queue := g.queue.filter fun c => c.id != id } [] :=
        .waits _ g.now (Nat.le_refl _)
      simpa [recorder, step, held, ending, beginning] using did
  | pass d =>
    have did : Does g { g with now := g.now + d.nanos } [] := .waits g.queue _ (Nat.le_add_right ..)
    simpa [recorder, step, ending, beginning] using did

end Gate

/-! ### What a log may say -/

/-- A status that a caller is told was found by its own probe just now, or it is the one that stands and
was found less than the time to live ago.  A caller that peeks is told what stands. -/
def Truthful (ttl : Duration) (before : GateLog) (e : Stamped GateNote) : Prop :=
  match e.what with
  | .told caller (.status s) =>
    before.getLast? = some ⟨e.time, .found caller s⟩ ∨
      ∃ o, standing before = some o ∧ o.what = s ∧ e.time < o.time + ttl.nanos
  | .told _ (.peeked s) => s = (standing before).map Stamped.what
  | _ => True

theorem marks_append (a b : GateLog) : marks (a ++ b) = marks a ++ marks b := List.map_append

theorem standing_snoc (log : GateLog) (t : Instant) (n : GateNote) :
    standing (log ++ [⟨t, n⟩]) = Flight.remember (standing log) ⟨t, n.mark⟩ := by
  rw [standing, marks_append]
  exact Flight.standing_snoc _ _

theorem underWay_snoc (log : GateLog) (t : Instant) (n : GateNote) :
    underWay (log ++ [⟨t, n⟩]) = Flight.going (underWay log) ⟨t, n.mark⟩ := by
  rw [underWay, marks_append]
  exact Flight.underWay_snoc _ _

/-- A gate and its log agree, and the log says only what it may. -/
structure Kept (ttl : Duration) (g : Gate) (log : GateLog) : Prop where
  goodFor : g.cache.ttl = ttl
  stored : g.cache.stored = (standing log).map fun o => ⟨o.what, o.time⟩
  held : underWay log = g.probing.toList
  past : ∀ e ∈ log, e.time ≤ g.now
  ascending : Flight.Ascending log
  lawful : Orderly (Flight.Allowed ttl) (marks log)
  truthful : Orderly (Truthful ttl) log

namespace Kept

variable {ttl : Duration} {g g' : Gate} {log : GateLog}

theorem standing_past (h : Kept ttl g log) {o : Stamped HealthStatus} (stands : standing log = some o) :
    o.time ≤ g.now := by
  refine Flight.standing_past (fun mark member => ?_) stands
  obtain ⟨e, noted, rfl⟩ := List.mem_map.mp member
  exact h.past e noted

/-- One note more, of something that happens now. -/
theorem note (h : Kept ttl g log) {n : GateNote} (clock : g'.now = g.now)
    (lifetime : g'.cache.ttl = g.cache.ttl)
    (stored : g'.cache.stored =
      (Flight.remember (standing log) ⟨g.now, n.mark⟩).map fun o => ⟨o.what, o.time⟩)
    (held : Flight.going (underWay log) ⟨g.now, n.mark⟩ = g'.probing.toList)
    (allowed : Flight.Allowed ttl (marks log) ⟨g.now, n.mark⟩) (truth : Truthful ttl log ⟨g.now, n⟩) :
    Kept ttl g' (log ++ [⟨g.now, n⟩]) where
  goodFor := lifetime.trans h.goodFor
  stored := by rw [standing_snoc, stored]
  held := by rw [underWay_snoc, held]
  past e member := by
    rw [clock]
    rcases List.mem_append.mp member with old | new
    · exact h.past e old
    · cases List.mem_singleton.mp new
      exact Nat.le_refl _
  ascending := by
    refine List.pairwise_append.mpr ⟨h.ascending, List.pairwise_singleton _ _, ?_⟩
    intro a old b new
    rw [List.mem_singleton.mp new]
    exact h.past a old
  lawful := by
    rw [marks_append]
    exact h.lawful.snoc allowed
  truthful := h.truthful.snoc truth

theorem fresh?_eq (h : Kept ttl g log) :
    g.cache.fresh? g.now = Flight.stillGood ttl g.now (standing log) := by
  rw [Cache.fresh?, h.stored, h.goodFor]
  cases standing log <;> rfl

theorem fresh (h : Kept ttl g log) {s : HealthStatus} (fresh : g.cache.fresh? g.now = some s) :
    ∃ o, standing log = some o ∧ o.what = s ∧ g.now < o.time + ttl.nanos := by
  rw [h.fresh?_eq] at fresh
  exact Flight.stillGood_some (fun _ => h.standing_past) fresh

theorem stale (h : Kept ttl g log) (stale : g.cache.fresh? g.now = none) {o : Stamped HealthStatus}
    (stands : standing log = some o) : o.time + ttl.nanos ≤ g.now := by
  rw [h.fresh?_eq, stands] at stale
  exact Flight.stillGood_none (h.standing_past stands) stale

/-- Each event keeps a gate and its log in agreement. -/
theorem step (h : Kept ttl g log) {notes : GateLog} (did : Gate.Does g g' notes) :
    Kept ttl g' (log ++ notes) := by
  have nobody (free : g.probing = none) : underWay log = [] := by rw [h.held, free]; rfl
  have holder {id : Nat} (held : g.probing = some id) : underWay log = [id] := by rw [h.held, held]; rfl
  cases did with
  | waits queue now later =>
    rw [List.append_nil]
    exact ⟨h.goodFor, h.stored, h.held, fun e member => Nat.le_trans (h.past e member) later,
      h.ascending, h.lawful, h.truthful⟩
  | gaveUp queue held =>
    refine h.note rfl rfl h.stored ?_ (holder held) trivial
    rw [holder held]
    exact List.erase_cons_head ..
  | @found id status held =>
    have ended : Kept ttl { g with probing := none, cache := g.cache.record status g.now }
        (log ++ [⟨g.now, .found id status⟩]) := by
      refine h.note rfl rfl rfl ?_ (holder held) trivial
      rw [holder held]
      exact List.erase_cons_head ..
    have told := ended.note (n := .told id (.status status)) rfl rfl ended.stored ended.held trivial
      (.inl List.getLast?_concat)
    rwa [List.append_assoc] at told
  | peeked free =>
    refine h.note rfl rfl h.stored h.held trivial ?_
    change g.cache.stored.map Observation.status = (standing log).map Stamped.what
    rw [h.stored, Option.map_map]
    rfl
  | invalidated free => exact h.note rfl rfl rfl h.held trivial trivial
  | recalled free fresh => exact h.note rfl rfl h.stored h.held trivial (.inr (h.fresh fresh))
  | began free stale =>
    refine h.note rfl rfl h.stored ?_ ⟨nobody free, fun o stands => h.stale stale stands⟩ trivial
    rw [nobody free]
    rfl

theorem run (ttl : Duration) (start : Instant) (events : List GateEvent) :
    Kept ttl (Gate.recorder.run { cache := { ttl := ttl }, now := start } events).1
      (Gate.recorder.run { cache := { ttl := ttl }, now := start } events).2 := by
  have empty : Kept ttl { cache := { ttl := ttl }, now := start } [] :=
    ⟨rfl, rfl, rfl, nofun, .nil, .nil, .nil⟩
  exact Gate.recorder.run_keeps (fun g log e kept => kept.step (Gate.does g e)) empty events

end Kept
end Courier.Health
