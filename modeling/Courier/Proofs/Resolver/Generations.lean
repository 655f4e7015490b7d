import Courier.Proofs.Resolver.Turns
/-!
What a resolver with a memory promises, whatever its callers and lookups do.  The calls for a name fall
into generations: each invalidation of the name begins a new one.  Calls of one generation share a slot,
and so their lookups never overlap and stay apart by the time to live; calls of different generations share
nothing, so that nobody is told what was looked up for a generation before its own.  No call is forgotten:
whoever waits gets its turn.
-/
namespace Courier

namespace ResolverNote

def invalidates (name : String) : ResolverNote → Bool
  | .invalidated n => n == name
  | _ => false

end ResolverNote

namespace Resolver

/-- How often a name was invalidated. -/
def invalidations (name : String) (log : ResolverLog) : Nat := log.countP fun e => e.what.invalidates name

/-- A call for a name began, for this slot, after so many invalidations of the name. -/
def Asked (log : ResolverLog) (n caller : Nat) (name : String) (era : Nat) : Prop :=
  ∃ u t v, log = u ++ ⟨t, .asked n caller name⟩ :: v ∧ invalidations name u = era

theorem invalidations_append (name : String) (a b : ResolverLog) :
    invalidations name (a ++ b) = invalidations name a + invalidations name b := List.countP_append

theorem Asked.append {log : ResolverLog} {n c : Nat} {name : String} {era : Nat}
    (asked : Asked log n c name era) (more : ResolverLog) : Asked (log ++ more) n c name era := by
  obtain ⟨u, t, v, rfl, same⟩ := asked
  exact ⟨u, t, v ++ more, by simp, same⟩

theorem Asked.era_le {log : ResolverLog} {n c : Nat} {name : String} {era : Nat}
    (asked : Asked log n c name era) : era ≤ invalidations name log := by
  obtain ⟨u, t, v, rfl, rfl⟩ := asked
  rw [invalidations_append]
  exact Nat.le_add_right ..

/-- A call of a longer log is an old one, or it began with the new entries. -/
theorem Asked.of_append {log more : ResolverLog} {n c : Nat} {name : String} {era : Nat}
    (asked : Asked (log ++ more) n c name era) :
    Asked log n c name era ∨ ∃ u t v, more = u ++ ⟨t, .asked n c name⟩ :: v ∧
      invalidations name log + invalidations name u = era := by
  obtain ⟨u, t, v, split, same⟩ := asked
  obtain ⟨rest, front, back⟩ | ⟨rest, front, back⟩ := List.append_eq_append_iff.mp split
  · refine .inr ⟨rest, t, v, back, ?_⟩
    rw [← invalidations_append, ← front, same]
  · cases rest with
    | nil =>
      rw [List.append_nil] at front
      exact .inr ⟨[], t, v, back.symm, by rw [front]; exact same⟩
    | cons e rest =>
      obtain ⟨rfl, rfl⟩ := List.cons.inj back
      exact .inl ⟨u, t, rest, front, same⟩

/-! ### Generations and slots -/

/-- The name and the generation that each slot was made for. -/
structure Housed (homes : List (String × Nat)) (r : Resolver) (log : ResolverLog) : Prop where
  distinct : homes.Nodup
  count : homes.length = r.slots.length
  home : ∀ n c name era, Asked log n c name era → homes[n]? = some (name, era)
  current : ∀ name n, Table.get? name r.names = some n ↔ homes[n]? = some (name, invalidations name log)
  past : ∀ name era, (name, era) ∈ homes → era ≤ invalidations name log

namespace Housed

variable {homes : List (String × Nat)} {r r' : Resolver} {log more : ResolverLog} {now : Instant}
  {notes : List ResolverNote}

/-- Notes of calls that go where they belong, and of nothing that begins a generation. -/
theorem note (h : Housed homes r log) (now : Instant) (count : r'.slots.length = r.slots.length)
    (names : r'.names = r.names)
    (calls : ∀ n c name, .asked n c name ∈ notes → homes[n]? = some (name, invalidations name log))
    (still : ∀ name, .invalidated name ∉ notes) : Housed homes r' (log ++ stamp now notes) := by
  have unchanged (part : ResolverLog) (among : part ⊆ stamp now notes) (name : String) :
      invalidations name part = 0 := by
    refine List.countP_eq_zero.mpr fun e member invalid => ?_
    obtain ⟨note, here, rfl⟩ := List.mem_map.mp (among member)
    cases note with
    | invalidated other => exact still other here
    | asked | began | ended | gaveUp | told => cases invalid
  have same (name : String) : invalidations name (log ++ stamp now notes) = invalidations name log := by
    rw [invalidations_append, unchanged _ (List.Subset.refl _), Nat.add_zero]
  refine ⟨h.distinct, h.count.trans count.symm, ?_, ?_, ?_⟩
  · intro n c name era asked
    obtain old | ⟨u, t, v, split, rfl⟩ := asked.of_append
    · exact h.home n c name era old
    · have member : (⟨t, .asked n c name⟩ : Stamped ResolverNote) ∈ stamp now notes := by simp [split]
      obtain ⟨note, among, written⟩ := List.mem_map.mp member
      obtain rfl : note = .asked n c name := congrArg Stamped.what written
      rw [unchanged u (by simp [split]), Nat.add_zero]
      exact calls n c name among
  · intro name n
    rw [names, same]
    exact h.current name n
  · intro name era member
    rw [same]
    exact h.past name era member

/-- A slot for a name that has none. -/
theorem build (h : Housed homes r log) {name : String} (missing : Table.get? name r.names = none) :
    Housed (homes ++ [(name, invalidations name log)])
      { r with slots := r.slots ++ [{}], names := Table.insert name r.slots.length r.names } log := by
  have fresh : (name, invalidations name log) ∉ homes := by
    intro member
    obtain ⟨n, inside⟩ := List.mem_iff_getElem?.mp member
    rw [(h.current name n).mpr inside] at missing
    cases missing
  have old {n : Nat} {x : String × Nat} (inside : homes[n]? = some x) :
      (homes ++ [(name, invalidations name log)])[n]? = some x := by
    obtain ⟨bound, _⟩ := List.getElem?_eq_some_iff.mp inside
    rw [List.getElem?_append_left bound, inside]
  have new {n : Nat} {x : String × Nat} :
      (homes ++ [(name, invalidations name log)])[n]? = some x ↔
        homes[n]? = some x ∨ n = r.slots.length ∧ x = (name, invalidations name log) := by
    rw [← h.count, List.getElem?_append]
    split
    · next inside => simp [Nat.ne_of_lt inside]
    · next outside =>
      have last : n - homes.length = 0 ↔ n = homes.length := by omega
      rw [List.getElem?_eq_none (Nat.le_of_not_lt outside), List.getElem?_singleton]
      simp [last, eq_comm]
  refine ⟨?_, by simp [h.count], fun n c other era asked => old (h.home n c other era asked), ?_, ?_⟩
  · refine List.nodup_append.mpr ⟨h.distinct, by simp, ?_⟩
    rintro a member b single rfl
    exact fresh (List.mem_singleton.mp single ▸ member)
  · intro other n
    rw [new]
    by_cases this : other = name
    · subst this
      rw [Table.get?_insert_self, ← h.current]
      simp [missing, eq_comm]
    · rw [Table.get?_insert_of_ne this, ← h.current]
      simp [this]
  · intro other era member
    rcases List.mem_append.mp member with before | last
    · exact h.past other era before
    · cases List.mem_singleton.mp last
      exact Nat.le_refl _

theorem slotOf (h : Housed homes r log) (name : String) :
    ∃ homes', Housed homes' (slotOf name r).2 log ∧
      homes'[(Resolver.slotOf name r).1]? = some (name, invalidations name log) := by
  unfold Resolver.slotOf
  cases found : Table.get? name r.names with
  | some n => exact ⟨homes, h, (h.current name n).mp found⟩
  | none =>
    refine ⟨_, h.build found, ?_⟩
    rw [← h.count]
    exact List.getElem?_concat_length

/-- An invalidation begins a generation that has no slot yet. -/
theorem invalidate (h : Housed homes r log) (now : Instant) (name : String) :
    Housed homes { r with names := Table.erase name r.names } (log ++ stamp now [.invalidated name]) := by
  have counted (other : String) : invalidations other (log ++ stamp now [.invalidated name]) =
      invalidations other log + if name = other then 1 else 0 := by
    rw [invalidations_append]
    simp [invalidations, stamp, ResolverNote.invalidates, List.countP_cons]
  refine ⟨h.distinct, h.count, ?_, ?_, ?_⟩
  · intro n c other era asked
    obtain old | ⟨u, t, v, split, _⟩ := asked.of_append
    · exact h.home n c other era old
    · cases u <;> simp [stamp] at split
  · intro other n
    rw [counted]
    by_cases same : name = other
    · subst same
      rw [Table.get?_erase_self, if_pos rfl]
      refine ⟨fun absent => absurd absent (Option.some_ne_none _).symm, fun inside => ?_⟩
      have bound := h.past name _ (List.mem_of_getElem? inside)
      omega
    · rw [Table.get?_erase_of_ne (Ne.symm same), if_neg same]
      exact h.current other n
  · intro other era member
    rw [counted]
    exact Nat.le_add_right_of_le (h.past other era member)

/-- Each event leaves a home for each slot. -/
theorem step (h : Housed homes r log) {event : ResolverEvent} (did : r.Does event r' notes)
    (now : Instant) :
    ∃ homes', Housed homes' r' (log ++ stamp now notes) := by
  cases did with
  | idle event => exact ⟨homes, h.note now rfl rfl (by simp) (by simp)⟩
  | asked l =>
    obtain ⟨homes', housed, home⟩ := h.slotOf l.descriptor.name
    refine ⟨homes', housed.note now ?_ rfl ?_ (by simp)⟩
    · exact List.length_modify ..
    · intro n c name member
      cases List.mem_singleton.mp member
      exact home
  | recalled | began | ended =>
    exact ⟨homes, h.note now (List.length_set ..) rfl (by simp) (by simp)⟩
  | left caller =>
    exact ⟨homes, h.note now (List.length_map ..) rfl (by simp [abandoned]) (by simp [abandoned])⟩
  | invalidated name => exact ⟨homes, h.invalidate now name⟩
  | passed d => exact ⟨homes, h.note now rfl rfl (by simp) (by simp)⟩

end Housed

/-! ### What a log may say -/

/-- A lookup begins for a call that began before.  What a caller is told is what its own lookup brought
just now, or the endpoint that stands in its slot and was brought less than the time to live ago. -/
def Truthful (ttl : Duration) (before : ResolverLog) (e : Stamped ResolverNote) : Prop :=
  match e.what with
  | .began n c => ∃ name era, Asked before n c name era
  | .told n c result => (∃ name era, Asked before n c name era) ∧
      (before.getLast? = some ⟨e.time, .ended n c result⟩ ∨
        ∃ o, standing n before = some o ∧ result = .ok o.what ∧ e.time < o.time + ttl.nanos)
  | _ => True

/-- Whoever waits after an event waited before it, or came with it. -/
theorem waited {r r' : Resolver} {notes : List ResolverNote}
    {event : ResolverEvent} (did : r.Does event r' notes) {m : Nat} {l : Lookup}
    (waits : r'.Waits m l) : r.Waits m l ∨ .asked m l.caller l.descriptor.name ∈ notes := by
  have kept {n : Nat} {s s' : Slot} (inside : r.slots[n]? = some s)
      (after : r'.slot m = if n = m then s' else r.slot m)
      (less : l ∈ s'.queue ∨ s'.busy = some l → l ∈ s.queue ∨ s.busy = some l) : r.Waits m l := by
    rw [Waits, after] at waits
    split at waits
    · next here =>
      subst here
      rw [Waits, slot_of_some inside]
      exact less waits
    · exact waits
  cases did with
  | idle event => exact .inl waits
  | asked x =>
    rw [Waits, slot_arrive] at waits
    split at waits
    · next here =>
      rcases waits with queued | busy
      · rcases List.mem_append.mp queued with old | new
        · exact .inl (.inl old)
        · obtain rfl := List.mem_singleton.mp new
          exact .inr (here.1 ▸ List.mem_singleton_self _)
      · exact .inl (.inr busy)
    · exact .inl waits
  | @recalled n entry x rest e inside fresh =>
    refine .inl (kept inside (slot_set inside _ m) ?_)
    rintro (queued | busy)
    · exact .inl (List.mem_cons_of_mem _ queued)
    · exact .inr busy
  | @began n entry x rest inside stale =>
    refine .inl (kept inside (slot_set inside ⟨entry, some x, rest⟩ m) ?_)
    rintro (queued | busy)
    · exact .inl (List.mem_cons_of_mem _ queued)
    · cases busy
      exact .inl (List.mem_cons_self ..)
  | @ended n s x result inside held =>
    refine .inl (kept inside (slot_set inside _ m) ?_)
    rintro (queued | busy)
    · exact .inl (s.keep_queue r.now result ▸ queued)
    · simp at busy
  | left caller =>
    rw [Waits, slot_leave] at waits
    rcases waits with queued | busy
    · exact .inl (.inl (List.mem_filter.mp queued).1)
    · exact .inl (.inr (Option.filter_eq_some_iff.mp busy).1)
  | invalidated name => exact .inl waits
  | passed d => exact .inl waits

/-- A resolver and its log agree, and the log says only what it may. -/
structure Kept (ttl : Duration) (r : Resolver) (log : ResolverLog) : Prop where
  goodFor : r.ttl = ttl
  past : ∀ e ∈ log, e.time ≤ r.now
  ascending : Flight.Ascending log
  slots : ∀ m, (r.slot m).Kept ttl (marks m log)
  housed : ∃ homes, Housed homes r log
  waiting : ∀ m l, r.Waits m l → ∃ name era, Asked log m l.caller name era
  truthful : Orderly (Truthful ttl) log

namespace Kept

variable {ttl : Duration} {r r' : Resolver} {log : ResolverLog} {notes : List ResolverNote}

theorem marks_past (h : Kept ttl r log) (m : Nat) : ∀ e ∈ marks m log, e.time ≤ r.now :=
  List.forall_mem_map.mpr h.past

theorem truth (h : Kept ttl r log) {event : ResolverEvent} (did : r.Does event r' notes) :
    Orderly (Truthful ttl) (log ++ stamp r'.now notes) := by
  have asked {n : Nat} {entry : Option Resolved} {busy : Option Lookup} {l : Lookup} {rest : List Lookup}
      (inside : r.slots[n]? = some ⟨entry, busy, l :: rest⟩) : ∃ name era, Asked log n l.caller name era :=
    h.waiting n l (.inl (by rw [slot_of_some inside]; exact List.mem_cons_self ..))
  cases did with
  | idle event => exact h.truthful.append (List.forall_mem_nil _)
  | asked l => exact h.truthful.snoc trivial
  | @recalled n entry l rest e inside fresh =>
    have slot := h.slots n
    rw [slot_of_some inside] at slot
    rw [h.goodFor] at fresh
    obtain ⟨o, stands, rfl, young⟩ := slot.fresh (h.marks_past n) fresh
    exact h.truthful.snoc ⟨asked inside, .inr ⟨o, stands, rfl, young⟩⟩
  | began inside stale => exact h.truthful.snoc (asked inside)
  | @ended n s l result inside held =>
    obtain ⟨name, era, called⟩ := h.waiting n l (.inr (by rw [slot_of_some inside]; exact held))
    have ended : Orderly (Truthful ttl) (log ++ [⟨r.now, .ended n l.caller result⟩]) :=
      h.truthful.snoc trivial
    have told : Truthful ttl (log ++ [⟨r.now, .ended n l.caller result⟩])
        ⟨r.now, .told n l.caller result⟩ :=
      ⟨⟨name, era, called.append _⟩, .inl List.getLast?_concat⟩
    have both := ended.snoc told
    rwa [List.append_assoc] at both
  | left caller =>
    refine h.truthful.append fun e member before => ?_
    obtain ⟨note, among, rfl⟩ := List.mem_map.mp member
    obtain ⟨n, _, rfl⟩ := List.mem_map.mp among
    trivial
  | invalidated name => exact h.truthful.snoc trivial
  | passed d => exact h.truthful.append (List.forall_mem_nil _)

/-- Each event keeps a resolver and its log in agreement. -/
theorem step (h : Kept ttl r log) {event : ResolverEvent} (did : r.Does event r' notes) :
    Kept ttl r' (log ++ stamp r'.now notes) := by
  obtain ⟨lifetime, onward⟩ : r'.ttl = r.ttl ∧ r.now ≤ r'.now := by
    cases did with
    | asked l => exact (arrive_keeps r l).imp_right fun same => Nat.le_of_eq same.symm
    | passed d => exact ⟨rfl, Nat.le_add_right ..⟩
    | idle event | recalled | began | ended | left | invalidated => exact ⟨rfl, Nat.le_refl _⟩
  have new : ∀ e ∈ stamp r'.now notes, e.time = r'.now := List.forall_mem_map.mpr fun note member => rfl
  obtain ⟨homes, housed⟩ := h.housed
  exact {
    goodFor := lifetime.trans h.goodFor
    past := List.forall_mem_append.mpr
      ⟨fun e old => Nat.le_trans (h.past e old) onward, fun e now => Nat.le_of_eq (new e now)⟩
    ascending := by
      refine List.pairwise_append.mpr ⟨h.ascending, ?_, fun a old b now => ?_⟩
      · exact List.pairwise_map.mpr (List.pairwise_of_forall fun _ _ => Nat.le_refl _)
      · rw [new b now]
        exact Nat.le_trans (h.past a old) onward
    slots := fun m => by
      have slot := h.slots m
      rw [← h.goodFor] at slot ⊢
      exact slot_step slot h.past did
    housed := housed.step did _
    waiting := fun m l waits => by
      rcases waited did waits with old | now
      · obtain ⟨name, era, asked⟩ := h.waiting m l old
        exact ⟨name, era, asked.append _⟩
      · obtain ⟨u, v, split⟩ := List.append_of_mem now
        refine ⟨l.descriptor.name, _, log ++ stamp r'.now u, r'.now, stamp r'.now v, ?_, rfl⟩
        rw [split]
        simp [stamp]
    truthful := h.truth did }

theorem run (ttl : Duration) (start : Instant) (events : List ResolverEvent) :
    Kept ttl (recorder.run { ttl := ttl, now := start } events).1
      (recorder.run { ttl := ttl, now := start } events).2 := by
  have empty : Kept ttl { ttl := ttl, now := start } [] := {
    goodFor := rfl
    past := List.forall_mem_nil _
    ascending := .nil
    slots := fun m => ⟨rfl, rfl, .nil⟩
    housed := ⟨[], .nil, rfl, fun n c name era ⟨u, t, v, split, _⟩ => by simp at split,
      fun name n => by simp [Table.get?], nofun⟩
    waiting := fun m l waits => by
      obtain queued | busy := waits
      · cases queued
      · cases busy
    truthful := .nil }
  exact recorder.run_keeps (fun r log e kept => kept.step (does r e)) empty events

/-- A lookup that ended had begun for a call that began before. -/
theorem brought (h : Kept ttl r log) {n d : Nat} {e : Endpoint} {u w : ResolverLog} {t : Instant}
    (split : log = u ++ ⟨t, .ended n d (.ok e)⟩ :: w) :
    ∃ x s v, u = x ++ ⟨s, .began n d⟩ :: v ∧ (∀ note ∈ v, ¬ note.what.Ends n d) ∧
      ∃ name era, Asked x n d name era := by
  have lawful := (h.slots n).lawful
  rw [split, marks_append, marks_cons] at lawful
  have ended : (ResolverNote.ended n d (.ok e)).mark n = .kept d e := if_pos rfl
  rw [ended] at lawful
  have alone : Flight.underWay (marks n u) = [d] := lawful _ _ _ rfl
  have going : d ∈ Flight.underWay (marks n u) := by
    rw [alone]
    exact List.mem_singleton_self d
  obtain ⟨front, s, back, before, open_⟩ := Flight.began_of_underWay lawful.initial going
  obtain ⟨x, note, v, rfl, began, rfl⟩ := split_of_marks before
  obtain rfl := ResolverNote.eq_of_mark_began began
  refine ⟨x, s, v, rfl, fun note member ends => ?_, ?_⟩
  · exact open_ _ (List.mem_map_of_mem member) (ResolverNote.ends_iff.mpr ends)
  · rw [List.append_assoc] at split
    exact h.truthful _ _ _ split

end Kept

/-! ### The promises -/

/-- An event that concerns other names only. -/
def Elsewhere (name : String) (log : ResolverLog) : ResolverEvent → Prop
  | .arrive l => l.descriptor.name ≠ name
  | .serve n | .finish n _ => ∀ c era, ¬ Asked log n c name era
  | .leave c => ∀ n era, ¬ Asked log n c name era
  | .invalidate other => other ≠ name
  | .pass _ => False

/-- The promises of a resolver whose log and state these are. -/
structure Generations (ttl : Duration) (r : Resolver) (log : ResolverLog) : Prop where
  /-- Calls share a slot exactly when they are for one name that was invalidated equally often before. -/
  shared : ∀ n c name era m d other later, Asked log n c name era → Asked log m d other later →
    (n = m ↔ name = other ∧ era = later)
  /-- Of two lookups for calls of one generation, the first ends before the second begins. -/
  alone : ∀ u s n c v t m d w name era, log = u ++ ⟨s, .began n c⟩ :: v ++ ⟨t, .began m d⟩ :: w →
    Asked log n c name era → Asked log m d name era → ∃ e ∈ v, e.what.Ends n c
  /-- After a lookup that succeeded, the next one of the generation begins no earlier than when the time
  to live has passed. -/
  apart : ∀ u s n c e v t m d w name era,
    log = u ++ ⟨s, .ended n c (.ok e)⟩ :: v ++ ⟨t, .began m d⟩ :: w →
    Asked log n c name era → Asked log m d name era → s + ttl.nanos ≤ t
  /-- A slot keeps what the last successful lookup brought. -/
  stored : ∀ n, (r.slot n).entry = (standing n log).map fun o => ⟨o.what, o.time⟩
  /-- A lookup that fails leaves what slots keep as it was. -/
  failed : ∀ n x m, ((r.step (.finish n (.error x))).1.slot m).entry = (r.slot m).entry
  /-- So does a caller that gives up, whether it waits or looks up. -/
  gaveUp : ∀ c m, ((r.step (.leave c)).1.slot m).entry = (r.slot m).entry
  /-- Whoever is told an endpoint is told what a lookup for its own generation brought, either its own
  just now or one that brought it less than the time to live ago.  That lookup began when the name had
  been invalidated at least as often as when the call began. -/
  fresh : ∀ before t n c e after, log = before ++ ⟨t, .told n c (.ok e)⟩ :: after →
    ∃ name era, Asked before n c name era ∧
      ∃ x s d v s' w, before = x ++ ⟨s, .began n d⟩ :: v ++ ⟨s', .ended n d (.ok e)⟩ :: w ∧
        (∀ note ∈ v, ¬ note.what.Ends n d) ∧ Asked x n d name era ∧ era ≤ invalidations name x ∧
        (d = c ∧ s' = t ∧ w = [] ∨ t < s' + ttl.nanos)
  /-- What concerns other names changes nothing for a name: neither its current slot nor any slot of its
  calls, and nothing is noted of them. -/
  elsewhere : ∀ name e, Elsewhere name log e →
    Table.get? name (r.step e).1.names = Table.get? name r.names ∧ (r.step e).1.now = r.now ∧
    (∀ n c era, Asked log n c name era →
      (r.step e).1.slot n = r.slot n ∧ ∀ note ∈ r.noted e, ¬ note.At n) ∧
    ∀ note ∈ r.noted e, note ≠ .invalidated name
  /-- A call that waits gets its turn as soon as its slot has been open once for each call before it and
  once more, whoever gives up and whatever is invalidated meanwhile. -/
  inTurn : ∀ n place l events, (r.slot n).queue[place]? = some l → ResolverEvent.leave l.caller ∉ events →
    place < r.openings n events → ∃ e ∈ (recorder.run r events).2, e.what.Serves n l.caller
  /-- A call that has begun, and was not given up since, waits or looks up, or it was told something. -/
  attended : ∀ l events, ResolverEvent.leave l.caller ∉ events →
    let n := (slotOf l.descriptor.name r).1
    let after := recorder.run (recorder.step r (.arrive l)) events
    after.1.Waits n l ∨ ∃ e ∈ after.2, e.what.Tells n l.caller

variable {ttl : Duration} {r : Resolver} {log : ResolverLog}

/-- A call that begins joins the queue of its name's slot. -/
theorem Kept.joins (h : Kept ttl r log) (l : Lookup) :
    (recorder.step r (.arrive l)).Waits (slotOf l.descriptor.name r).1 l := by
  obtain ⟨homes, housed⟩ := h.housed
  obtain ⟨homes', housed', home⟩ := housed.slotOf l.descriptor.name
  obtain ⟨inside, _⟩ := List.getElem?_eq_some_iff.mp home
  rw [housed'.count] at inside
  have joined := (slot_arrive r l _).trans (if_pos ⟨rfl, inside⟩)
  refine .inl ?_
  change l ∈ ((r.step (.arrive l)).1.slot (slotOf l.descriptor.name r).1).queue
  rw [joined]
  exact List.mem_append_right _ (List.mem_singleton_self l)

/-- The call that a note of the log belongs to shares the slot of every call of its generation. -/
theorem Kept.shared (h : Kept ttl r log) {n c m d : Nat} {name other : String} {era later : Nat}
    (asked : Asked log n c name era) (too : Asked log m d other later) :
    n = m ↔ name = other ∧ era = later := by
  obtain ⟨homes, housed⟩ := h.housed
  have here := housed.home n c name era asked
  have there := housed.home m d other later too
  constructor
  · rintro rfl
    rw [here] at there
    cases there
    exact ⟨rfl, rfl⟩
  · rintro ⟨rfl, rfl⟩
    obtain ⟨inside, _⟩ := List.getElem?_eq_some_iff.mp here
    exact (List.getElem?_inj inside housed.distinct).mp (here.trans there.symm)

theorem Kept.alone (h : Kept ttl r log) {u v w : ResolverLog} {s t : Instant} {n c d : Nat}
    (split : log = u ++ ⟨s, .began n c⟩ :: v ++ ⟨t, .began n d⟩ :: w) : ∃ e ∈ v, e.what.Ends n c := by
  have began (c : Nat) : (ResolverNote.began n c).mark n = .began c := if_pos rfl
  have marked : marks n log =
      marks n u ++ ⟨s, .began c⟩ :: marks n v ++ ⟨t, .began d⟩ :: marks n w := by
    rw [split]
    simp only [marks_append, marks_cons, began]
  obtain ⟨mark, member, ends⟩ := Flight.ends_between (h.slots n).lawful marked
  obtain ⟨e, among, rfl⟩ := List.mem_map.mp member
  exact ⟨e, among, ResolverNote.ends_iff.mp ends⟩

theorem Kept.apart (h : Kept ttl r log) {u v w : ResolverLog} {s t : Instant} {n c d : Nat} {e : Endpoint}
    (split : log = u ++ ⟨s, .ended n c (.ok e)⟩ :: v ++ ⟨t, .began n d⟩ :: w) : s + ttl.nanos ≤ t := by
  have ended : (ResolverNote.ended n c (.ok e)).mark n = .kept c e := if_pos rfl
  have began : (ResolverNote.began n d).mark n = .began d := if_pos rfl
  have marked : marks n log =
      marks n u ++ ⟨s, .kept c e⟩ :: marks n v ++ ⟨t, .began d⟩ :: marks n w := by
    rw [split]
    simp only [marks_append, marks_cons, ended, began]
  refine Flight.began_after_kept (h.slots n).lawful (List.pairwise_map.mpr h.ascending) marked ?_
  exact List.forall_mem_map.mpr fun note _ => note.what.mark_remembers n

/-- What a caller is told was looked up for its generation. -/
theorem Kept.fresh (h : Kept ttl r log) {before after : ResolverLog} {t : Instant} {n c : Nat}
    {e : Endpoint} (split : log = before ++ ⟨t, .told n c (.ok e)⟩ :: after) :
    ∃ name era, Asked before n c name era ∧
      ∃ x s d v s' w, before = x ++ ⟨s, .began n d⟩ :: v ++ ⟨s', .ended n d (.ok e)⟩ :: w ∧
        (∀ note ∈ v, ¬ note.what.Ends n d) ∧ Asked x n d name era ∧ era ≤ invalidations name x ∧
        (d = c ∧ s' = t ∧ w = [] ∨ t < s' + ttl.nanos) := by
  obtain ⟨⟨name, era, asked⟩, source⟩ := h.truthful _ _ _ split
  -- Either way the endpoint was brought by a lookup in the caller's slot.
  have found : ∃ d s' y w, before = y ++ ⟨s', .ended n d (.ok e)⟩ :: w ∧
      (d = c ∧ s' = t ∧ w = [] ∨ t < s' + ttl.nanos) := by
    rcases source with own | ⟨o, stands, same, young⟩
    · obtain ⟨y, last⟩ := List.getLast?_eq_some_iff.mp own
      exact ⟨c, t, y, [], last, .inl ⟨rfl, rfl, rfl⟩⟩
    · cases same
      obtain ⟨front, d, back, kept⟩ := Flight.kept_of_standing stands
      obtain ⟨y, note, w, placed, mark, _⟩ := split_of_marks kept
      obtain rfl := ResolverNote.eq_of_mark_kept mark
      exact ⟨d, o.time, y, w, placed, .inr young⟩
  obtain ⟨d, s', y, w, placed, young⟩ := found
  have whole : log = y ++ ⟨s', .ended n d (.ok e)⟩ :: (w ++ ⟨t, .told n c (.ok e)⟩ :: after) := by
    rw [split, placed, List.append_assoc, List.cons_append]
  obtain ⟨x, s, v, rfl, going, other, later, called⟩ := h.brought whole
  have here : Asked log n c name era := by
    rw [split]
    exact asked.append _
  have there : Asked log n d other later := by
    rw [whole, List.append_assoc]
    exact called.append _
  obtain ⟨rfl, rfl⟩ := (h.shared here there).mp rfl
  exact ⟨name, era, asked, x, s, d, v, s', w, placed, going, called, called.era_le, young⟩

/-- What concerns other names changes nothing for a name. -/
theorem Kept.elsewhere (h : Kept ttl r log) {r' : Resolver} {notes : List ResolverNote}
    {event : ResolverEvent} (did : r.Does event r' notes) {name : String}
    (other : Elsewhere name log event) :
    Table.get? name r'.names = Table.get? name r.names ∧ r'.now = r.now ∧
    (∀ n c era, Asked log n c name era → r'.slot n = r.slot n ∧ ∀ note ∈ notes, ¬ note.At n) ∧
    ∀ note ∈ notes, note ≠ .invalidated name := by
  obtain ⟨homes, housed⟩ := h.housed
  have moved {n m : Nat} {s s' : Slot} (inside : r.slots[m]? = some s) (away : m ≠ n) :
      { r with slots := r.slots.set m s' }.slot n = r.slot n := by
    rw [slot_set inside, if_neg away]
  have apart {m n c : Nat} {era : Nat} (never : ∀ c era, ¬ Asked log m c name era)
      (asked : Asked log n c name era) : m ≠ n := by
    rintro rfl
    exact never c era asked
  cases did with
  | idle event =>
    exact ⟨rfl, rfl, fun n c era asked => ⟨rfl, List.forall_mem_nil _⟩, List.forall_mem_nil _⟩
  | asked l =>
    obtain ⟨homes', housed', home⟩ := housed.slotOf l.descriptor.name
    have away {n c : Nat} {era : Nat} (asked : Asked log n c name era) :
        (slotOf l.descriptor.name r).1 ≠ n := by
      rintro rfl
      rw [housed'.home _ c name era asked] at home
      cases home
      exact other rfl
    refine ⟨names_arrive other r, (arrive_keeps r l).2, fun n c era asked => ⟨?_, ?_⟩, ?_⟩
    · rw [slot_arrive, if_neg fun both => away asked both.1]
    · exact List.forall_mem_singleton.mpr (away asked)
    · exact List.forall_mem_singleton.mpr nofun
  | recalled inside _ | began inside _ =>
    refine ⟨rfl, rfl, fun n c era asked => ⟨moved inside (apart other asked), ?_⟩, ?_⟩
    · exact List.forall_mem_singleton.mpr (apart other asked)
    · exact List.forall_mem_singleton.mpr nofun
  | ended result inside held =>
    refine ⟨rfl, rfl, fun n c era asked => ⟨moved inside (apart other asked), ?_⟩, ?_⟩
    · exact List.forall_mem_cons.mpr ⟨apart other asked, List.forall_mem_singleton.mpr (apart other asked)⟩
    · exact List.forall_mem_cons.mpr ⟨nofun, List.forall_mem_singleton.mpr nofun⟩
  | left c =>
    refine ⟨rfl, rfl, fun n d era asked => ?_, ?_⟩
    · have away (l : Lookup) (waits : r.Waits n l) : l.caller ≠ c := by
        rintro rfl
        obtain ⟨name', era', called⟩ := h.waiting n l waits
        obtain ⟨rfl, rfl⟩ := (h.shared asked called).mp rfl
        exact other n era called
      refine ⟨?_, abandoned_elsewhere fun l held => away l (.inr held)⟩
      rw [slot_leave]
      exact Slot.leave_of_ne away
    · exact List.forall_mem_map.mpr fun n _ => nofun
  | invalidated asked =>
    refine ⟨Table.get?_erase_of_ne (Ne.symm other) _, rfl, fun n c era _ => ⟨rfl, ?_⟩, ?_⟩
    · exact List.forall_mem_singleton.mpr id
    · exact List.forall_mem_singleton.mpr fun same => other (ResolverNote.invalidated.inj same)
  | passed d => exact other.elim

/-- A resolver keeps its promises over every run. -/
theorem keeps_generations (ttl : Duration) (start : Instant) (events : List ResolverEvent) :
    Generations ttl (recorder.run { ttl := ttl, now := start } events).1
      (recorder.run { ttl := ttl, now := start } events).2 := by
  have kept := Kept.run ttl start events
  exact {
    shared := fun n c name era m d other later => kept.shared
    alone := fun u s n c v t m d w name era split asked too => by
      obtain rfl := (kept.shared asked too).mpr ⟨rfl, rfl⟩
      exact kept.alone split
    apart := fun u s n c e v t m d w name era split asked too => by
      obtain rfl := (kept.shared asked too).mpr ⟨rfl, rfl⟩
      exact kept.apart split
    stored := fun n => (kept.slots n).entry
    failed := fun n x m => entry_failed _ n x m
    gaveUp := fun c m => entry_left _ c m
    fresh := fun before t n c e after => kept.fresh
    elsewhere := fun name e => kept.elsewhere (does _ e)
    inTurn := fun n place l events waits stays turns => served_in_turn waits stays turns
    attended := fun l events stays => waits_or_told (kept.joins l) stays }

/-- Two calls share a lookup.  The third, for which a new one is made, is given up, and the lookup of the
fourth fails, so that the fifth looks up again. -/
example :
    let call (caller : Nat) : ResolverEvent := .arrive ⟨caller, ⟨"ledger", "http", "h", 80, 1000, "v1"⟩⟩
    let found : Endpoint := ⟨"ledger", "http", "h", 80, 1080, "v1"⟩
    (recorder.run { ttl := .ofSeconds 60 }
        [call 0, .serve 0, call 1, .finish 0 (.ok found), .serve 0, .pass (.ofSeconds 60), call 2, .serve 0,
          call 3, call 4, .leave 2, .serve 0, .finish 0 (.error (.noAddress "ledger")), .serve 0,
          .finish 0 (.ok found)]).2.filterMap (fun e => match e.what with
            | .told n c result => some (n, c, result)
            | _ => none) =
      [(0, 0, .ok found), (0, 1, .ok found), (0, 3, .error (.noAddress "ledger")), (0, 4, .ok found)] := by
  decide

/-- An invalidation lets a new lookup begin beside the one that is under way. -/
example :
    let call (caller : Nat) : ResolverEvent := .arrive ⟨caller, ⟨"ledger", "http", "h", 80, 1000, "v1"⟩⟩
    (recorder.run { ttl := .ofSeconds 60 }
      [call 0, .serve 0, call 1, .serve 0, .invalidate "ledger", call 2, .serve 1]).1.underWay.length = 2 := by
  decide

end Resolver
end Courier
