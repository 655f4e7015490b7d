import Courier.Proofs.Resolver.Slots
/-!
Nobody who queues for a slot is forgotten.  With each event a call keeps its place in the queue, moves up
because a call before it was let in or given up, or gets its own turn; and from when it begins it waits or
looks up until it is told something.
-/
namespace Courier

namespace ResolverNote

/-- A call gets its turn: it is told something, or its lookup begins. -/
def Serves (n caller : Nat) : ResolverNote → Prop
  | .began m c | .told m c _ => m = n ∧ c = caller
  | _ => False

/-- The caller is told something. -/
def Tells (n caller : Nat) : ResolverNote → Prop
  | .told m c _ => m = n ∧ c = caller
  | _ => False

end ResolverNote

namespace Resolver

variable {r r' : Resolver} {n m place : Nat} {l : Lookup}

/-- A serving that finds the slot free. -/
def opens (n : Nat) (r : Resolver) : ResolverEvent → Nat
  | .serve m => if m = n ∧ (r.slot n).busy = none then 1 else 0
  | _ => 0

/-- How often events let the first in the queue of a slot in. -/
def openings (r : Resolver) (n : Nat) (events : List ResolverEvent) : Nat :=
  recorder.total (opens n) r events

/-- A call waits for a slot or looks up there. -/
def Waits (r : Resolver) (n : Nat) (l : Lookup) : Prop :=
  l ∈ (r.slot n).queue ∨ (r.slot n).busy = some l

/-- A slot in which somebody waits is there. -/
theorem inside_of_mem (waits : l ∈ (r.slot n).queue) : r.slots[n]? = some (r.slot n) := by
  cases inside : r.slots[n]? with
  | none =>
    rw [slot, inside] at waits
    cases waits
  | some s => rw [slot_of_some inside]

/-- The first in the queue of a free slot is let in. -/
theorem serve_first {rest : List Lookup} (free : (r.slot n).busy = none)
    (first : (r.slot n).queue = l :: rest) :
    ((r.step (.serve n)).1.slot n).queue = rest ∧ ∃ note ∈ r.noted (.serve n), note.Serves n l.caller := by
  have inside := inside_of_mem (l := l) (by rw [first]; exact List.mem_cons_self ..)
  obtain ⟨bound, _⟩ := List.getElem?_eq_some_iff.mp inside
  generalize r.slot n = s at free first inside
  obtain ⟨entry, busy, queue⟩ := s
  cases free
  cases first
  cases known : Slot.fresh? r.ttl r.now ⟨entry, none, rest⟩ with
  | some e =>
    have after : (r.step (.serve n)).1 = { r with slots := r.slots.set n ⟨entry, none, rest⟩ } := by
      simp [step, inside, known]
    have told : r.noted (.serve n) = [.told n l.caller (.ok e)] := by simp [noted, step, inside, known]
    rw [after, told, slot_set inside, if_pos rfl]
    exact ⟨rfl, _, List.mem_singleton_self _, rfl, rfl⟩
  | none =>
    have after : (r.step (.serve n)).1 =
        { r with slots := r.slots.set n ⟨entry, some l, rest⟩, lookups := r.lookups + 1 } := by
      simp [step, inside, known]
    have began : r.noted (.serve n) = [.began n l.caller] := by
      simp [noted, step, inside, known, slot, List.getElem?_set_self bound]
    rw [after, began]
    refine ⟨?_, _, List.mem_singleton_self _, rfl, rfl⟩
    simp [slot, List.getElem?_set_self bound]

/-- Nobody is let in while a lookup is under way. -/
theorem serve_busy {x : Lookup} (busy : (r.slot n).busy = some x) : (r.step (.serve n)).1 = r := by
  cases inside : r.slots[n]? with
  | none => simp [step, inside]
  | some s =>
    rw [slot_of_some inside] at busy
    obtain ⟨entry, _, queue⟩ := s
    cases busy
    simp [step, inside]

/-- Other events than a serving move a queue up at most, apart from those who join it or leave. -/
theorem queue_step (waits : (r.slot n).queue[place]? = some l) {e : ResolverEvent}
    (stays : e ≠ .leave l.caller) (other : e ≠ .serve n) :
    ∃ place' ≤ place, ((r.step e).1.slot n).queue[place']? = some l := by
  have moved {m : Nat} {s : Slot} {r' : Resolver} (after : r'.slots = r.slots.set m s) (away : m ≠ n) :
      (r'.slot n).queue[place]? = some l := by
    rw [slot, after, List.getElem?_set_ne away]
    exact waits
  have did := does r e
  generalize r.noted e = notes, (r.step e).1 = r' at did
  cases did with
  | idle e => exact ⟨place, Nat.le_refl _, waits⟩
  | asked x =>
    obtain ⟨inside, _⟩ := List.getElem?_eq_some_iff.mp waits
    refine ⟨place, Nat.le_refl _, ?_⟩
    rw [slot_arrive]
    split
    · exact (List.getElem?_append_left inside).trans waits
    · exact waits
  | recalled inside _ | began inside _ =>
    exact ⟨place, Nat.le_refl _, moved rfl fun same => other (congrArg _ same)⟩
  | @ended m s x result inside held =>
    refine ⟨place, Nat.le_refl _, ?_⟩
    rw [slot_set inside]
    split
    · next here =>
      rw [← here, slot_of_some inside] at waits
      rw [Slot.keep_queue]
      exact waits
    · exact waits
  | left caller =>
    rw [slot_leave]
    exact place_filter _ waits (bne_iff_ne.mpr fun same => stays (same ▸ rfl))
  | invalidated name => exact ⟨place, Nat.le_refl _, waits⟩
  | passed d => exact ⟨place, Nat.le_refl _, waits⟩

/-- With each event a call that waits gets its turn, or keeps its place but for those who were let in before
it. -/
theorem place_step (waits : (r.slot n).queue[place]? = some l) {e : ResolverEvent}
    (stays : e ≠ .leave l.caller) :
    (∃ note ∈ r.noted e, note.Serves n l.caller) ∨
      ∃ place', place' + opens n r e ≤ place ∧ ((r.step e).1.slot n).queue[place']? = some l := by
  by_cases here : e = .serve n
  · subst here
    cases free : (r.slot n).busy with
    | some x =>
      refine .inr ⟨place, by simp [opens, free], ?_⟩
      rw [serve_busy free]
      exact waits
    | none =>
      cases first : (r.slot n).queue with
      | nil => simp [first] at waits
      | cons x rest =>
        obtain ⟨behind, served⟩ := serve_first free first
        rw [first] at waits
        cases place with
        | zero =>
          obtain rfl : x = l := by simpa using waits
          exact .inl served
        | succ place =>
          exact .inr ⟨place, by simp [opens, free], by rw [behind]; simpa using waits⟩
  · obtain ⟨place', up, found⟩ := queue_step waits stays here
    have shut : opens n r e = 0 := by
      cases e with
      | serve m =>
        have away : m ≠ n := fun same => here (same ▸ rfl)
        exact if_neg fun both => away both.1
      | arrive | finish | leave | invalidate | pass => rfl
    exact .inr ⟨place', by rw [shut]; exact up, found⟩

/-- With each event a call waits or looks up as before, or it is told something. -/
theorem waits_step (waits : r.Waits n l) {e : ResolverEvent} (stays : e ≠ .leave l.caller) :
    (r.step e).1.Waits n l ∨ ∃ note ∈ r.noted e, note.Tells n l.caller := by
  -- An event in one slot concerns the calls of that slot only.
  have moved {m : Nat} {s s' : Slot} {r' : Resolver} {notes : List ResolverNote}
      (inside : r.slots[m]? = some s) (after : r'.slot n = if m = n then s' else r.slot n)
      (goesOn : m = n → l ∈ s.queue ∨ s.busy = some l →
        (l ∈ s'.queue ∨ s'.busy = some l) ∨ ∃ note ∈ notes, note.Tells n l.caller) :
      r'.Waits n l ∨ ∃ note ∈ notes, note.Tells n l.caller := by
    rw [Waits, after]
    by_cases here : m = n
    · subst here
      rw [if_pos rfl]
      rw [Waits, slot_of_some inside] at waits
      exact goesOn rfl waits
    · rw [if_neg here]
      exact .inl waits
  have did := does r e
  generalize r.noted e = notes, (r.step e).1 = r' at did
  cases did with
  | idle e => exact .inl waits
  | asked x =>
    refine .inl ?_
    rw [Waits, slot_arrive]
    split
    · exact waits.imp_left (List.mem_append_left _)
    · exact waits
  | recalled inside fresh =>
    refine moved inside (slot_set inside _ n) fun here waits => ?_
    rcases List.mem_cons.mp (waits.resolve_right nofun) with rfl | behind
    · exact .inr ⟨_, List.mem_singleton_self _, here, rfl⟩
    · exact .inl (.inl behind)
  | @began m entry x rest inside stale =>
    refine moved inside (slot_set inside ⟨entry, some x, rest⟩ n) fun here waits => ?_
    rcases List.mem_cons.mp (waits.resolve_right nofun) with rfl | behind
    · exact .inl (.inr rfl)
    · exact .inl (.inl behind)
  | @ended m s x result inside held =>
    refine moved inside (slot_set inside _ n) fun here waits => ?_
    rcases waits with queued | busy
    · exact .inl (.inl (s.keep_queue r.now result ▸ queued))
    · cases held.symm.trans busy
      exact .inr ⟨_, List.mem_cons_of_mem _ (List.mem_singleton_self _), here, rfl⟩
  | left caller =>
    have other : l.caller ≠ caller := fun same => stays (same ▸ rfl)
    refine .inl ?_
    rw [Waits, slot_leave]
    refine waits.imp (fun queued => List.mem_filter.mpr ⟨queued, bne_iff_ne.mpr other⟩) fun busy => ?_
    exact Option.filter_eq_some_iff.mpr ⟨busy, bne_iff_ne.mpr other⟩
  | invalidated name => exact .inl waits
  | passed d => exact .inl waits

/-- A call gets its turn once its slot has been open to more calls than waited before it. -/
theorem served_in_turn (waits : (r.slot n).queue[place]? = some l) {events : List ResolverEvent}
    (stays : ResolverEvent.leave l.caller ∉ events) (turns : place < r.openings n events) :
    ∃ e ∈ (recorder.run r events).2, e.what.Serves n l.caller := by
  have each (r : Resolver) (e : ResolverEvent) (place : Nat) (waits : (r.slot n).queue[place]? = some l)
      (stays : e ≠ .leave l.caller) :
      (∃ note ∈ recorder.notes r e, note.what.Serves n l.caller) ∨ ∃ place', place' + opens n r e ≤ place ∧
        ((recorder.step r e).slot n).queue[place']? = some l :=
    (place_step waits stays).imp_left fun ⟨note, noted, serves⟩ =>
      ⟨⟨_, note⟩, List.mem_map_of_mem noted, serves⟩
  exact recorder.in_turn each waits (fun _ member => ne_of_mem_of_not_mem member stays) turns

/-- A call that waits, or looks up, does so until it is told something. -/
theorem waits_or_told (waits : r.Waits n l) {events : List ResolverEvent}
    (stays : ResolverEvent.leave l.caller ∉ events) :
    (recorder.run r events).1.Waits n l ∨ ∃ e ∈ (recorder.run r events).2, e.what.Tells n l.caller := by
  have each (r : Resolver) (e : ResolverEvent) (waits : r.Waits n l) (stays : e ≠ .leave l.caller) :
      (recorder.step r e).Waits n l ∨ ∃ note ∈ recorder.notes r e, note.what.Tells n l.caller :=
    (waits_step waits stays).imp_right fun ⟨note, noted, tells⟩ =>
      ⟨⟨_, note⟩, List.mem_map_of_mem noted, tells⟩
  exact recorder.waits_or_done each waits fun _ member => ne_of_mem_of_not_mem member stays

end Resolver
end Courier
