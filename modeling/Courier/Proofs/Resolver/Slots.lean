import Courier.Resolver
import Courier.Proofs.Flight
import Courier.Proofs.Table
/-!
The slots of a resolver, over every run of events: callers of any names that come, are served and give up
at any time, lookups that take any time and bring anything, names that are invalidated while somebody
queues for them.  `Resolver.recorder` notes what calls, lookups and invalidations there were.  In each slot
one lookup at a time is under way, and what the slot keeps is what the last successful one brought.
-/
namespace Courier

/-- What is noted of a resolver.  A call is told apart by its caller and the slot that it waits for. -/
inductive ResolverNote where
  /-- A call for this name began. -/
  | asked (slot caller : Nat) (name : String)
  /-- The lookup of a call began. -/
  | began (slot caller : Nat)
  /-- The lookup of a call ended with this. -/
  | ended (slot caller : Nat) (result : Resolution)
  /-- The caller gave up while its lookup was under way. -/
  | gaveUp (slot caller : Nat)
  | told (slot caller : Nat) (result : Resolution)
  | invalidated (name : String)

abbrev ResolverLog := List (Stamped ResolverNote)

namespace ResolverNote

/-- What a note says of the endpoint that a slot keeps. -/
def mark (n : Nat) : ResolverNote → Flight.Mark Endpoint
  | .began m c => if m = n then .began c else .aside
  | .ended m c (.ok e) => if m = n then .kept c e else .aside
  | .ended m c (.error _) => if m = n then .dropped c else .aside
  | .gaveUp m c => if m = n then .dropped c else .aside
  | _ => .aside

/-- The lookup of this call ends. -/
def Ends (n caller : Nat) : ResolverNote → Prop
  | .ended m c _ | .gaveUp m c => m = n ∧ c = caller
  | _ => False

/-- A note about this slot. -/
def At (n : Nat) : ResolverNote → Prop
  | .asked m _ _ | .began m _ | .ended m _ _ | .gaveUp m _ | .told m _ _ => m = n
  | .invalidated _ => False

theorem mark_elsewhere {n : Nat} {note : ResolverNote} (other : ¬ note.At n) : note.mark n = .aside := by
  cases note with
  | began m c => exact if_neg other
  | ended m c result => cases result <;> exact if_neg other
  | gaveUp m c => exact if_neg other
  | asked m c name => rfl
  | told m c result => rfl
  | invalidated name => rfl

theorem eq_of_mark_began {n c : Nat} {note : ResolverNote} (began : note.mark n = .began c) :
    note = .began n c := by
  cases note with
  | began m d => by_cases here : m = n <;> simp_all [mark]
  | ended m d result => cases result <;> by_cases here : m = n <;> simp [mark, here] at began
  | gaveUp m d => by_cases here : m = n <;> simp [mark, here] at began
  | asked | told | invalidated => cases began

theorem eq_of_mark_kept {n c : Nat} {e : Endpoint} {note : ResolverNote} (kept : note.mark n = .kept c e) :
    note = .ended n c (.ok e) := by
  cases note with
  | began m d => by_cases here : m = n <;> simp [mark, here] at kept
  | ended m d result => cases result <;> by_cases here : m = n <;> simp_all [mark]
  | gaveUp m d => by_cases here : m = n <;> simp [mark, here] at kept
  | asked | told | invalidated => cases kept

theorem ends_iff {n c : Nat} {note : ResolverNote} : (note.mark n).Ends c ↔ note.Ends n c := by
  cases note with
  | began m d => by_cases here : m = n <;> simp [mark, here, Flight.Mark.Ends, Ends]
  | ended m d result => cases result <;> by_cases here : m = n <;> simp [mark, here, Flight.Mark.Ends, Ends]
  | gaveUp m d => by_cases here : m = n <;> simp [mark, here, Flight.Mark.Ends, Ends]
  | asked m d name => exact Iff.rfl
  | told m d result => exact Iff.rfl
  | invalidated name => exact Iff.rfl

/-- A slot never forgets: an invalidation only takes it away from its name. -/
theorem mark_remembers (note : ResolverNote) (n : Nat) : note.mark n ≠ .forgotten := by
  cases note with
  | began m d => by_cases here : m = n <;> simp [mark, here]
  | ended m d result => cases result <;> by_cases here : m = n <;> simp [mark, here]
  | gaveUp m d => by_cases here : m = n <;> simp [mark, here]
  | asked m d name => nofun
  | told m d result => nofun
  | invalidated name => nofun

end ResolverNote

namespace Resolver

/-- A slot that is not there yet is empty. -/
def slot (r : Resolver) (n : Nat) : Slot := r.slots[n]?.getD {}

/-- The callers who give up a lookup that is under way, slot by slot. -/
def abandoned (r : Resolver) (caller : Nat) : List ResolverNote :=
  ((List.range r.slots.length).filter fun n => (r.slot n).busy.any fun l => l.caller == caller).map
    fun n => .gaveUp n caller

/-- What is noted of an event. -/
def noted (r : Resolver) (e : ResolverEvent) : List ResolverNote :=
  let (r', answers) := r.step e
  match e with
  | .arrive l => [.asked (slotOf l.descriptor.name r).1 l.caller l.descriptor.name]
  | .serve n =>
    (answers.map fun a => .told n a.1 a.2) ++
      if r.lookups < r'.lookups then ((r'.slot n).busy.map fun l => ResolverNote.began n l.caller).toList
      else []
  | .finish n result =>
    ((r.slot n).busy.map fun l => ResolverNote.ended n l.caller result).toList ++
      answers.map fun a => .told n a.1 a.2
  | .leave caller => r.abandoned caller
  | .invalidate name => [.invalidated name]
  | .pass _ => []

def stamp (now : Instant) (notes : List ResolverNote) : ResolverLog := notes.map fun note => ⟨now, note⟩

def recorder : Recorder Resolver ResolverEvent (Stamped ResolverNote) where
  step r e := (r.step e).1
  notes r e := stamp (r.step e).1.now (r.noted e)

def marks (n : Nat) (log : ResolverLog) : List (Stamped (Flight.Mark Endpoint)) :=
  log.map fun e => ⟨e.time, e.what.mark n⟩

/-- The endpoint that the last successful lookup of a slot brought, with the time when. -/
def standing (n : Nat) (log : ResolverLog) : Option (Stamped Endpoint) := Flight.standing (marks n log)

theorem marks_append (n : Nat) (a b : ResolverLog) : marks n (a ++ b) = marks n a ++ marks n b :=
  List.map_append

theorem marks_cons (n : Nat) (e : Stamped ResolverNote) (log : ResolverLog) :
    marks n (e :: log) = ⟨e.time, e.what.mark n⟩ :: marks n log := rfl

/-- A mark in the middle is a note in the middle. -/
theorem split_of_marks {n : Nat} {log : ResolverLog} {front back : List (Stamped (Flight.Mark Endpoint))}
    {t : Instant} {mark : Flight.Mark Endpoint} (split : marks n log = front ++ ⟨t, mark⟩ :: back) :
    ∃ u note v, log = u ++ ⟨t, note⟩ :: v ∧ note.mark n = mark ∧ marks n v = back := by
  obtain ⟨u, rest, rfl, rfl, tail⟩ := List.map_eq_append_iff.mp split
  obtain ⟨⟨time, note⟩, v, rfl, same, rfl⟩ := List.map_eq_cons_iff.mp tail
  cases same
  exact ⟨u, note, v, rfl, rfl, rfl⟩

end Resolver

@[simp] theorem Slot.keep_busy (now : Instant) (s : Slot) (result : Resolution) :
    (s.keep now result).busy = none := by
  cases result <;> rfl

@[simp] theorem Slot.keep_queue (now : Instant) (s : Slot) (result : Resolution) :
    (s.keep now result).queue = s.queue := by
  cases result <;> rfl

/-- Whoever is not there does not leave. -/
theorem Slot.leave_of_ne {s : Slot} {caller : Nat}
    (away : ∀ l, l ∈ s.queue ∨ s.busy = some l → l.caller ≠ caller) : s.leave caller = s := by
  obtain ⟨entry, busy, queue⟩ := s
  have stays (l : Lookup) (waits : l ∈ queue ∨ busy = some l) : (l.caller != caller) = true :=
    bne_iff_ne.mpr (away l waits)
  simp only [Slot.leave, Slot.mk.injEq, true_and]
  refine ⟨?_, List.filter_eq_self.mpr fun l member => stays l (.inl member)⟩
  cases busy with
  | none => rfl
  | some l => exact Option.filter_some_pos (stays l (.inr rfl))

namespace Resolver

/-! ### What an event does -/

section

variable {r : Resolver} {n : Nat} {s s' : Slot}

theorem slot_of_some (inside : r.slots[n]? = some s) : r.slot n = s := by rw [slot, inside, Option.getD_some]

theorem slot_set (inside : r.slots[n]? = some s) (s' : Slot) (m : Nat) :
    { r with slots := r.slots.set n s' }.slot m = if n = m then s' else r.slot m := by
  obtain ⟨bound, _⟩ := List.getElem?_eq_some_iff.mp inside
  rw [slot, slot, List.getElem?_set]
  by_cases here : n = m
  · rw [if_pos here, if_pos bound, if_pos here, Option.getD_some]
  · rw [if_neg here, if_neg here]

theorem slot_leave (r : Resolver) (caller m : Nat) :
    { r with slots := r.slots.map (Slot.leave caller) }.slot m = (r.slot m).leave caller := by
  rw [slot, slot, List.getElem?_map]
  cases r.slots[m]? with
  | none => rfl
  | some s => rfl

/-- Making a slot for a name changes nothing in any slot. -/
theorem slot_slotOf (name : String) (r : Resolver) (m : Nat) : (slotOf name r).2.slot m = r.slot m := by
  unfold slotOf
  split
  · rfl
  · change (r.slots ++ [({} : Slot)])[m]?.getD {} = r.slots[m]?.getD {}
    by_cases inside : m < r.slots.length
    · rw [List.getElem?_append_left inside]
    · have outside : r.slots.length ≤ m := Nat.le_of_not_lt inside
      rw [List.getElem?_append_right outside, List.getElem?_eq_none outside]
      cases m - r.slots.length <;> rfl

theorem arrive_keeps (r : Resolver) (l : Lookup) :
    (r.step (.arrive l)).1.ttl = r.ttl ∧ (r.step (.arrive l)).1.now = r.now := by
  have made : (slotOf l.descriptor.name r).2.ttl = r.ttl ∧ (slotOf l.descriptor.name r).2.now = r.now := by
    rw [slotOf]
    split <;> exact ⟨rfl, rfl⟩
  exact made

theorem names_arrive {l : Lookup} {name : String} (other : l.descriptor.name ≠ name) (r : Resolver) :
    Table.get? name (r.step (.arrive l)).1.names = Table.get? name r.names := by
  have made : Table.get? name (slotOf l.descriptor.name r).2.names = Table.get? name r.names := by
    rw [slotOf]
    split
    · rfl
    · exact Table.get?_insert_of_ne (Ne.symm other) _ _
  exact made

/-- A caller that arrives only joins the queue of its slot. -/
theorem slot_arrive (r : Resolver) (l : Lookup) (m : Nat) :
    (r.step (.arrive l)).1.slot m =
      if (slotOf l.descriptor.name r).1 = m ∧ m < (slotOf l.descriptor.name r).2.slots.length then
        { r.slot m with queue := (r.slot m).queue ++ [l] }
      else r.slot m := by
  rw [← slot_slotOf l.descriptor.name r m]
  have joins : (r.step (.arrive l)).1.slot m = ((slotOf l.descriptor.name r).2.slots.modify
      (slotOf l.descriptor.name r).1 fun s => { s with queue := s.queue ++ [l] })[m]?.getD {} := rfl
  rw [joins, slot, List.getElem?_modify]
  obtain ⟨k, r'⟩ := slotOf l.descriptor.name r
  dsimp only
  cases inside : r'.slots[m]? with
  | none =>
    have outside := List.getElem?_eq_none_iff.mp inside
    rw [if_neg fun both => Nat.not_lt.mpr outside both.2]
    rfl
  | some s =>
    obtain ⟨bound, _⟩ := List.getElem?_eq_some_iff.mp inside
    by_cases here : k = m <;> simp [here, bound]

/-- A lookup that fails leaves what slots keep as it was. -/
theorem entry_failed (r : Resolver) (n : Nat) (x : ResolveError) (m : Nat) :
    ((r.step (.finish n (.error x))).1.slot m).entry = (r.slot m).entry := by
  cases inside : r.slots[n]? with
  | none => simp [step, inside]
  | some s =>
    cases held : s.busy with
    | none => simp [step, inside, held]
    | some l =>
      have after : (r.step (.finish n (.error x))).1 =
          { r with slots := r.slots.set n (s.keep r.now (.error x)) } := by simp [step, inside, held]
      rw [after, slot_set inside]
      split
      · next here =>
        rw [← here, slot_of_some inside]
        rfl
      · rfl

theorem entry_left (r : Resolver) (caller m : Nat) :
    ((r.step (.leave caller)).1.slot m).entry = (r.slot m).entry := by
  change ({ r with slots := r.slots.map (Slot.leave caller) }.slot m).entry = _
  rw [slot_leave]
  rfl

end

/-- Everything that an event can do at a resolver. -/
inductive Does (r : Resolver) : ResolverEvent → Resolver → List ResolverNote → Prop where
  | idle (e : ResolverEvent) : Does r e r []
  | asked (l : Lookup) :
      Does r (.arrive l) (r.step (.arrive l)).1
        [.asked (slotOf l.descriptor.name r).1 l.caller l.descriptor.name]
  | recalled {n : Nat} {entry : Option Resolved} {l : Lookup} {rest : List Lookup} {e : Endpoint}
      (inside : r.slots[n]? = some ⟨entry, none, l :: rest⟩)
      (fresh : Slot.fresh? r.ttl r.now ⟨entry, none, rest⟩ = some e) :
      Does r (.serve n) { r with slots := r.slots.set n ⟨entry, none, rest⟩ } [.told n l.caller (.ok e)]
  | began {n : Nat} {entry : Option Resolved} {l : Lookup} {rest : List Lookup}
      (inside : r.slots[n]? = some ⟨entry, none, l :: rest⟩)
      (stale : Slot.fresh? r.ttl r.now ⟨entry, none, rest⟩ = none) :
      Does r (.serve n)
        { r with slots := r.slots.set n ⟨entry, some l, rest⟩, lookups := r.lookups + 1 }
        [.began n l.caller]
  | ended {n : Nat} {s : Slot} {l : Lookup} (result : Resolution) (inside : r.slots[n]? = some s)
      (held : s.busy = some l) :
      Does r (.finish n result) { r with slots := r.slots.set n (s.keep r.now result) }
        [.ended n l.caller result, .told n l.caller result]
  | left (caller : Nat) :
      Does r (.leave caller) { r with slots := r.slots.map (Slot.leave caller) } (r.abandoned caller)
  | invalidated (name : String) :
      Does r (.invalidate name) { r with names := Table.erase name r.names } [.invalidated name]
  | passed (d : Duration) : Does r (.pass d) { r with now := r.now + d.nanos } []

theorem does (r : Resolver) (e : ResolverEvent) : Does r e (r.step e).1 (r.noted e) := by
  cases e with
  | arrive l => exact .asked l
  | serve n =>
    cases inside : r.slots[n]? with
    | none => simpa [step, noted, inside] using Does.idle (.serve n)
    | some s =>
      obtain ⟨entry, busy, queue⟩ := s
      cases busy with
      | some l => simpa [step, noted, inside] using Does.idle (.serve n)
      | none =>
        cases queue with
        | nil => simpa [step, noted, inside] using Does.idle (.serve n)
        | cons l rest =>
          cases known : Slot.fresh? r.ttl r.now ⟨entry, none, rest⟩ with
          | some e => simpa [step, noted, inside, known] using Does.recalled inside known
          | none =>
            obtain ⟨bound, _⟩ := List.getElem?_eq_some_iff.mp inside
            have did := Does.began inside known
            simpa only [step, noted, inside, known, slot, List.getElem?_set_self bound, List.map_nil,
              List.nil_append, Nat.lt_succ_self, if_true, Option.getD_some, Option.map_some,
              Option.toList_some] using did
  | finish n result =>
    cases inside : r.slots[n]? with
    | none => simpa [step, noted, slot, inside] using Does.idle (.finish n result)
    | some s =>
      cases held : s.busy with
      | none => simpa [step, noted, slot, inside, held] using Does.idle (.finish n result)
      | some l => simpa [step, noted, slot, inside, held] using Does.ended result inside held
  | leave caller => exact .left caller
  | invalidate name => exact .invalidated name
  | pass d => exact .passed d

/-- One slot's share of what a caller leaves behind. -/
theorem abandoned_split {r : Resolver} {m : Nat} {l : Lookup} (held : (r.slot m).busy = some l) :
    ∃ front back, r.abandoned l.caller = front ++ .gaveUp m l.caller :: back ∧
      (∀ note ∈ front, ¬ note.At m) ∧ ∀ note ∈ back, ¬ note.At m := by
  have inside : m < r.slots.length := by
    by_contra outside
    rw [slot, List.getElem?_eq_none (Nat.le_of_not_lt outside)] at held
    cases held
  let busy (n : Nat) : Bool := (r.slot n).busy.any fun x => x.caller == l.caller
  have among : m ∈ (List.range r.slots.length).filter busy :=
    List.mem_filter.mpr ⟨List.mem_range.mpr inside, by simp [busy, held]⟩
  have once : ((List.range r.slots.length).filter busy).Nodup := List.nodup_range.filter _
  obtain ⟨front, back, split⟩ := List.append_of_mem among
  rw [split, List.nodup_append, List.nodup_cons] at once
  refine ⟨front.map fun n => .gaveUp n l.caller, back.map fun n => .gaveUp n l.caller, ?_, ?_, ?_⟩
  · change ((List.range r.slots.length).filter busy).map _ = _
    rw [split, List.map_append, List.map_cons]
  · refine List.forall_mem_map.mpr fun n member here => ?_
    obtain rfl : n = m := here
    exact once.2.2 n member n (List.mem_cons_self ..) rfl
  · refine List.forall_mem_map.mpr fun n member here => ?_
    obtain rfl : n = m := here
    exact once.2.1.1 member

theorem abandoned_elsewhere {r : Resolver} {m caller : Nat}
    (other : ∀ l, (r.slot m).busy = some l → l.caller ≠ caller) :
    ∀ note ∈ r.abandoned caller, ¬ note.At m := by
  refine List.forall_mem_map.mpr fun n member here => ?_
  obtain rfl : n = m := here
  have busy := (List.mem_filter.mp member).2
  cases held : (r.slot n).busy with
  | none => simp [held] at busy
  | some l => exact other l held (by simpa [held] using busy)

end Resolver

/-! ### What a slot keeps -/

/-- A slot and its marks agree, and each mark stands where it may. -/
structure Slot.Kept (ttl : Duration) (s : Slot) (marks : List (Stamped (Flight.Mark Endpoint))) :
    Prop where
  entry : s.entry = (Flight.standing marks).map fun o => ⟨o.what, o.time⟩
  held : Flight.underWay marks = (s.busy.map Lookup.caller).toList
  lawful : Orderly (Flight.Allowed ttl) marks

namespace Slot.Kept

variable {ttl : Duration} {s s' : Slot} {marks more : List (Stamped (Flight.Mark Endpoint))} {now : Instant}

theorem aside (h : s.Kept ttl marks) (aside : ∀ e ∈ more, e.what = .aside) (entry : s'.entry = s.entry)
    (busy : s'.busy = s.busy) : s'.Kept ttl (marks ++ more) := by
  obtain ⟨going, stands, lawful⟩ := Flight.aside_append ttl marks aside
  exact ⟨by rw [entry, stands, h.entry], by rw [busy, going, h.held], lawful h.lawful⟩

/-- One mark among others that do not concern the slot. -/
theorem mark (h : s.Kept ttl marks) {front back : List (Stamped (Flight.Mark Endpoint))}
    (before : ∀ e ∈ front, e.what = .aside) (behind : ∀ e ∈ back, e.what = .aside)
    {mark : Flight.Mark Endpoint}
    (entry : s'.entry =
      (Flight.remember (Flight.standing marks) ⟨now, mark⟩).map fun o => ⟨o.what, o.time⟩)
    (held : Flight.going (Flight.underWay marks) ⟨now, mark⟩ = (s'.busy.map Lookup.caller).toList)
    (allowed : Flight.Allowed ttl (marks ++ front) ⟨now, mark⟩) :
    s'.Kept ttl (marks ++ (front ++ ⟨now, mark⟩ :: back)) := by
  obtain ⟨going, stands, lawful⟩ := Flight.aside_append ttl marks before
  have marked : s'.Kept ttl (marks ++ front ++ [⟨now, mark⟩]) := {
    entry := by rw [Flight.standing_snoc, stands, entry]
    held := by rw [Flight.underWay_snoc, going, held]
    lawful := (lawful h.lawful).snoc allowed }
  have whole : s'.Kept ttl (marks ++ front ++ [⟨now, mark⟩] ++ back) := marked.aside behind rfl rfl
  rwa [List.append_assoc, List.append_assoc, List.singleton_append] at whole

theorem fresh?_eq (h : s.Kept ttl marks) (now : Instant) :
    s.fresh? ttl now = Flight.stillGood ttl now (Flight.standing marks) := by
  rw [Slot.fresh?, h.entry]
  cases Flight.standing marks <;> rfl

/-- A fresh endpoint is the one that stands, and it is younger than the time to live. -/
theorem fresh (h : s.Kept ttl marks) (past : ∀ e ∈ marks, e.time ≤ now) {e : Endpoint}
    (fresh : s.fresh? ttl now = some e) :
    ∃ o, Flight.standing marks = some o ∧ o.what = e ∧ now < o.time + ttl.nanos := by
  rw [h.fresh?_eq] at fresh
  exact Flight.stillGood_some (fun _ => Flight.standing_past past) fresh

theorem stale (h : s.Kept ttl marks) (past : ∀ e ∈ marks, e.time ≤ now)
    (stale : s.fresh? ttl now = none) {o : Stamped Endpoint} (stands : Flight.standing marks = some o) :
    o.time + ttl.nanos ≤ now := by
  rw [h.fresh?_eq, stands] at stale
  exact Flight.stillGood_none (Flight.standing_past past stands) stale

end Slot.Kept

namespace Resolver

variable {r r' : Resolver} {log : ResolverLog} {notes : List ResolverNote} {m : Nat}

theorem marks_stamp (now : Instant) (notes : List ResolverNote) :
    marks m (stamp now notes) = notes.map fun note => ⟨now, note.mark m⟩ := by
  rw [marks, stamp, List.map_map]
  rfl

theorem aside_of_elsewhere (now : Instant) (other : ∀ note ∈ notes, ¬ note.At m) :
    ∀ e ∈ notes.map (fun note => (⟨now, note.mark m⟩ : Stamped (Flight.Mark Endpoint))),
      e.what = .aside :=
  List.forall_mem_map.mpr fun note member => ResolverNote.mark_elsewhere (other note member)

/-- An event that does not concern a slot keeps it in agreement with its marks. -/
theorem slot_elsewhere (h : (r.slot m).Kept r.ttl (marks m log)) (now : Instant)
    (other : ∀ note ∈ notes, ¬ note.At m) {s : Slot} (entry : s.entry = (r.slot m).entry)
    (busy : s.busy = (r.slot m).busy) : s.Kept r.ttl (marks m (log ++ stamp now notes)) := by
  rw [marks_append, marks_stamp]
  exact h.aside (aside_of_elsewhere now other) entry busy

/-- The lookup under way in a slot ends, among notes about other slots. -/
theorem slot_ended (h : (r.slot m).Kept r.ttl (marks m log)) (now : Instant) {l : Lookup}
    (held : (r.slot m).busy = some l) {front back : List ResolverNote} {note : ResolverNote}
    (before : ∀ note ∈ front, note.mark m = .aside) (behind : ∀ note ∈ back, note.mark m = .aside)
    {s : Slot} (freed : s.busy = none)
    (ends : note.mark m = .dropped l.caller ∧ s.entry = (r.slot m).entry ∨
      ∃ e, note.mark m = .kept l.caller e ∧ s.entry = some ⟨e, now⟩) :
    s.Kept r.ttl (marks m (log ++ stamp now (front ++ note :: back))) := by
  have alone : Flight.underWay (marks m log) = [l.caller] := by
    rw [h.held, held]
    rfl
  have alone' : Flight.underWay (marks m log ++ front.map fun note => ⟨now, note.mark m⟩) = [l.caller] :=
    (Flight.aside_append r.ttl (marks m log) (List.forall_mem_map.mpr before)).1.trans alone
  have emptied : (Flight.underWay (marks m log)).erase l.caller = (s.busy.map Lookup.caller).toList := by
    rw [alone, freed]
    exact List.erase_cons_head ..
  rw [marks_append, marks_stamp, List.map_append, List.map_cons]
  obtain ⟨mark, entry⟩ | ⟨e, mark, entry⟩ := ends
  · rw [mark]
    exact h.mark (List.forall_mem_map.mpr before) (List.forall_mem_map.mpr behind) (entry.trans h.entry)
      emptied alone'
  · rw [mark]
    exact h.mark (List.forall_mem_map.mpr before) (List.forall_mem_map.mpr behind) entry emptied alone'

/-- A lookup begins in a slot where none is under way and what is kept is not fresh. -/
theorem slot_began {entry : Option Resolved} {l : Lookup} {rest : List Lookup}
    (h : Slot.Kept r.ttl ⟨entry, none, l :: rest⟩ (marks m log)) (past : ∀ e ∈ log, e.time ≤ r.now)
    (stale : Slot.fresh? r.ttl r.now ⟨entry, none, rest⟩ = none) :
    Slot.Kept r.ttl ⟨entry, some l, rest⟩ (marks m (log ++ stamp r.now [.began m l.caller])) := by
  have nobody : Flight.underWay (marks m log) = [] := h.held
  have mark : (ResolverNote.began m l.caller).mark m = .began l.caller := if_pos rfl
  rw [marks_append, marks_stamp, List.map_singleton, mark]
  refine h.mark (List.forall_mem_nil _) (List.forall_mem_nil _) h.entry ?_ ?_
  · change l.caller :: Flight.underWay (marks m log) = _
    rw [nobody]
    rfl
  · rw [List.append_nil]
    exact ⟨nobody, fun o stands => h.stale (List.forall_mem_map.mpr past) stale stands⟩

/-- A caller who leaves frees the slot in which the lookup was its own. -/
theorem slot_left (h : (r.slot m).Kept r.ttl (marks m log)) (now : Instant) (caller : Nat) :
    ((r.slot m).leave caller).Kept r.ttl (marks m (log ++ stamp now (r.abandoned caller))) := by
  cases held : (r.slot m).busy with
  | none =>
    refine slot_elsewhere h now (abandoned_elsewhere (by simp [held])) rfl ?_
    rw [Slot.leave, held]
    rfl
  | some l =>
    by_cases same : l.caller = caller
    · subst same
      obtain ⟨front, back, split, before, behind⟩ := abandoned_split held
      rw [split]
      refine slot_ended h now held
        (fun note member => ResolverNote.mark_elsewhere (before note member))
        (fun note member => ResolverNote.mark_elsewhere (behind note member)) ?_
        (.inl ⟨if_pos rfl, rfl⟩)
      rw [Slot.leave, held]
      simp
    · refine slot_elsewhere h now (abandoned_elsewhere (by simpa [held] using same)) rfl ?_
      rw [Slot.leave, held]
      simp [same]

/-- Each event keeps each slot and its marks in agreement. -/
theorem slot_step (h : (r.slot m).Kept r.ttl (marks m log)) (past : ∀ e ∈ log, e.time ≤ r.now)
    {event : ResolverEvent} (did : r.Does event r' notes) :
    (r'.slot m).Kept r.ttl (marks m (log ++ stamp r'.now notes)) := by
  cases did with
  | idle event => exact slot_elsewhere h _ (List.forall_mem_nil _) rfl rfl
  | asked l =>
    rw [marks_append, marks_stamp, slot_arrive]
    refine h.aside (List.forall_mem_singleton.mpr rfl) ?_ ?_ <;> split <;> rfl
  | @recalled n entry l rest e inside fresh =>
    rw [slot_set inside, marks_append, marks_stamp]
    split
    · next here =>
      have before := slot_of_some inside
      rw [here] at before
      refine h.aside (List.forall_mem_singleton.mpr rfl) ?_ ?_ <;> rw [before]
    · exact h.aside (List.forall_mem_singleton.mpr rfl) rfl rfl
  | @began n entry l rest inside stale =>
    have after : ({ r with
        slots := r.slots.set n ⟨entry, some l, rest⟩, lookups := r.lookups + 1 } : Resolver).slot m =
        if n = m then ⟨entry, some l, rest⟩ else r.slot m := slot_set inside _ m
    rw [after]
    by_cases here : n = m
    · subst here
      rw [slot_of_some inside] at h
      rw [if_pos rfl]
      exact slot_began h past stale
    · have away : ¬ (ResolverNote.began n l.caller).At m := here
      rw [if_neg here]
      exact slot_elsewhere h _ (List.forall_mem_singleton.mpr away) rfl rfl
  | @ended n s l result inside held =>
    rw [slot_set inside]
    by_cases here : n = m
    · subst here
      rw [← slot_of_some inside] at held ⊢
      rw [if_pos rfl]
      refine slot_ended h r.now held (List.forall_mem_nil _) (List.forall_mem_singleton.mpr rfl) ?_ ?_
      · cases result <;> rfl
      · cases result with
        | ok e => exact .inr ⟨e, if_pos rfl, rfl⟩
        | error x => exact .inl ⟨if_pos rfl, rfl⟩
    · have away : ∀ note ∈ [.ended n l.caller result, .told n l.caller result], ¬ ResolverNote.At m note :=
        List.forall_mem_cons.mpr ⟨here, List.forall_mem_singleton.mpr here⟩
      rw [if_neg here]
      exact slot_elsewhere h _ away rfl rfl
  | left caller =>
    rw [slot_leave]
    exact slot_left h r.now caller
  | invalidated name => exact slot_elsewhere h _ (List.forall_mem_singleton.mpr id) rfl rfl
  | passed d => exact slot_elsewhere h _ (List.forall_mem_nil _) rfl rfl

end Resolver
end Courier
