import Courier.Duration
/-!
Systems that move by events, and what is written down of them.  A recorder says what one event changes
and what is noted of it; a run of events leaves a state and a log.  What ties a state to its log has to be
shown of one event only, and so has that a queue moves on.  A log is orderly when each entry is allowed by the
entries before it.
-/
namespace Courier

/-- Something that was noted, and when. -/
structure Stamped (ι : Type) where
  time : Instant
  what : ι
  deriving DecidableEq, Repr

/-- A system that moves by events, with what is noted of each of them. -/
structure Recorder (σ ε ι : Type) where
  step : σ → ε → σ
  notes : σ → ε → List ι

namespace Recorder

variable {σ ε ι : Type} (m : Recorder σ ε ι)

def next (x : σ × List ι) (e : ε) : σ × List ι := (m.step x.1 e, x.2 ++ m.notes x.1 e)

/-- The state after events, and the log of them. -/
def run (s : σ) (events : List ε) : σ × List ι := events.foldl m.next (s, [])

/-- What one event keeps of a state and its log, a run keeps. -/
theorem run_keeps {Inv : σ → List ι → Prop}
    (each : ∀ s log e, Inv s log → Inv (m.step s e) (log ++ m.notes s e)) {s : σ} (start : Inv s [])
    (events : List ε) : Inv (m.run s events).1 (m.run s events).2 := by
  have onward : ∀ (events : List ε) (x : σ × List ι), Inv x.1 x.2 →
      Inv (events.foldl m.next x).1 (events.foldl m.next x).2 := by
    intro events
    induction events with
    | nil => exact fun x kept => kept
    | cons e rest ih => exact fun x kept => ih (m.next x e) (each x.1 x.2 e kept)
  exact onward events (s, []) start

/-- What is noted does not change what happens. -/
theorem run_state (s : σ) (events : List ε) : (m.run s events).1 = events.foldl m.step s := by
  have onward : ∀ (events : List ε) (x : σ × List ι),
      (events.foldl m.next x).1 = events.foldl m.step x.1 := by
    intro events
    induction events with
    | nil => exact fun x => rfl
    | cons e rest ih => exact fun x => ih (m.next x e)
  exact onward events (s, [])

theorem run_append (s : σ) (first more : List ε) :
    m.run s (first ++ more) =
      ((m.run (m.run s first).1 more).1, (m.run s first).2 ++ (m.run (m.run s first).1 more).2) := by
  have shift : ∀ (events : List ε) (x : σ × List ι),
      events.foldl m.next x =
        ((events.foldl m.next (x.1, [])).1, x.2 ++ (events.foldl m.next (x.1, [])).2) := by
    intro events
    induction events with
    | nil => simp
    | cons e rest ih =>
      intro x
      rw [List.foldl_cons, List.foldl_cons, ih (m.next x e), ih (m.next (x.1, []) e)]
      simp only [next, List.nil_append, List.append_assoc]
  rw [run, List.foldl_append, shift more]
  rfl

theorem run_cons (s : σ) (e : ε) (rest : List ε) :
    m.run s (e :: rest) = ((m.run (m.step s e) rest).1, m.notes s e ++ (m.run (m.step s e) rest).2) :=
  m.run_append s [e] rest

/-! ### Queues -/

/-- What events are worth together, each in the state that it finds. -/
def total (worth : σ → ε → Nat) (s : σ) : List ε → Nat
  | [] => 0
  | e :: rest => worth s e + total worth (m.step s e) rest

/-- If each event serves whoever has a place, or moves it up by what the event is worth, then everybody is
served by events that are worth more than its place. -/
theorem in_turn {worth : σ → ε → Nat} {At : σ → Nat → Prop} {Stays : ε → Prop} {Served : ι → Prop}
    (each : ∀ s e place, At s place → Stays e →
      (∃ n ∈ m.notes s e, Served n) ∨ ∃ place', place' + worth s e ≤ place ∧ At (m.step s e) place')
    {s : σ} {place : Nat} (waits : At s place) {events : List ε} (stays : ∀ e ∈ events, Stays e)
    (turns : place < m.total worth s events) : ∃ n ∈ (m.run s events).2, Served n := by
  induction events generalizing s place with
  | nil => exact absurd turns (Nat.not_lt_zero _)
  | cons e rest ih =>
    rw [m.run_cons]
    rw [total] at turns
    obtain ⟨first, others⟩ := List.forall_mem_cons.mp stays
    obtain ⟨n, now, served⟩ | ⟨place', up, waits'⟩ := each s e place waits first
    · exact ⟨n, List.mem_append_left _ now, served⟩
    · obtain ⟨n, later, served⟩ := ih waits' others (by omega)
      exact ⟨n, List.mem_append_right _ later, served⟩

/-- Whoever waits goes on waiting until it is done with. -/
theorem waits_or_done {Waits : σ → Prop} {Stays : ε → Prop} {Done : ι → Prop}
    (each : ∀ s e, Waits s → Stays e → Waits (m.step s e) ∨ ∃ n ∈ m.notes s e, Done n) {s : σ}
    (waits : Waits s) {events : List ε} (stays : ∀ e ∈ events, Stays e) :
    Waits (m.run s events).1 ∨ ∃ n ∈ (m.run s events).2, Done n := by
  induction events generalizing s with
  | nil => exact .inl waits
  | cons e rest ih =>
    rw [m.run_cons]
    obtain ⟨first, others⟩ := List.forall_mem_cons.mp stays
    obtain still | ⟨n, now, done⟩ := each s e waits first
    · exact (ih still others).imp_right fun ⟨n, later, done⟩ => ⟨n, List.mem_append_right _ later, done⟩
    · exact .inr ⟨n, List.mem_append_left _ now, done⟩

end Recorder

/-- In a queue that some leave, whoever stays keeps its place or moves up. -/
theorem place_filter {α : Type} (stays : α → Bool) {queue : List α} {x : α} {place : Nat}
    (waits : queue[place]? = some x) (kept : stays x = true) :
    ∃ place' ≤ place, (queue.filter stays)[place']? = some x := by
  induction queue generalizing place with
  | nil => simp at waits
  | cons y rest ih =>
    cases place with
    | zero =>
      obtain rfl : y = x := by simpa using waits
      exact ⟨0, Nat.le_refl _, by simp [kept]⟩
    | succ place =>
      obtain ⟨place', up, found⟩ := ih (by simpa using waits)
      by_cases also : stays y = true
      · exact ⟨place' + 1, Nat.succ_le_succ up, by simpa [also] using found⟩
      · exact ⟨place', Nat.le_succ_of_le up, by simpa [also] using found⟩

/-! ### Orderly logs -/

/-- What stands in a log with one entry more is that entry, or it stood there before. -/
theorem split_snoc {ι : Type} {log u v : List ι} {e x : ι} (split : log ++ [e] = u ++ x :: v) :
    (log = u ∧ e = x ∧ v = []) ∨ ∃ w, v = w ++ [e] ∧ log = u ++ x :: w := by
  obtain rfl | ⟨w, last, rfl⟩ := v.eq_nil_or_concat
  · obtain ⟨front, back⟩ := List.append_inj' split rfl
    exact .inl ⟨front, (List.cons.inj back).1, rfl⟩
  · rw [List.concat_eq_append, ← List.cons_append, ← List.append_assoc] at split
    obtain ⟨front, back⟩ := List.append_inj' split rfl
    rw [List.concat_eq_append, (List.cons.inj back).1]
    exact .inr ⟨w, rfl, front⟩

/-- Each entry of a log stands where `P` allows it, after the entries before it. -/
def Orderly {ι : Type} (P : List ι → ι → Prop) (log : List ι) : Prop :=
  ∀ before e after, log = before ++ e :: after → P before e

namespace Orderly

variable {ι : Type} {P : List ι → ι → Prop} {log : List ι}

theorem nil : Orderly P [] := by
  intro before e after split
  simp at split

theorem initial {before after : List ι} (h : Orderly P (before ++ after)) : Orderly P before := by
  intro front e back split
  refine h front e (back ++ after) ?_
  rw [split, List.append_assoc, List.cons_append]

theorem snoc {e : ι} (h : Orderly P log) (allowed : P log e) : Orderly P (log ++ [e]) := by
  intro before x after split
  obtain ⟨rfl, rfl, _⟩ | ⟨w, _, front⟩ := split_snoc split
  · exact allowed
  · exact h before x w front

/-- Entries that may stand anywhere. -/
theorem append {more : List ι} (h : Orderly P log) (free : ∀ e ∈ more, ∀ before, P before e) :
    Orderly P (log ++ more) := by
  induction more generalizing log with
  | nil => rwa [List.append_nil]
  | cons e rest ih =>
    have one := h.snoc (free e (List.mem_cons_self ..) log)
    have all := ih one fun x member => free x (List.mem_cons_of_mem _ member)
    rwa [List.append_assoc, List.singleton_append] at all

theorem last {e : ι} (h : Orderly P (log ++ [e])) : P log e := h log e [] rfl

end Orderly
end Courier
