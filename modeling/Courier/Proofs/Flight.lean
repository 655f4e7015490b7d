import Courier.Proofs.History
import Mathlib.Data.List.Induction
import Mathlib.Tactic.ByContra
import Mathlib.Tactic.Push
/-!
Refreshes of a value that is remembered for a while.  A log of marks says when a refresh began and how it
ended, and when the value was forgotten; `standing` is what is remembered after it, `underWay` are the
refreshes that have not ended.  If each refresh begins alone and only when the value is missing or old,
then refreshes never overlap and stay apart by the time for which the value is good.
-/
namespace Courier.Flight

/-- What befalls a remembered value. -/
inductive Mark (α : Type) where
  | began (caller : Nat)
  /-- The caller's refresh ended, and what it brought is remembered. -/
  | kept (caller : Nat) (value : α)
  /-- The caller's refresh ended and brought nothing. -/
  | dropped (caller : Nat)
  | forgotten
  /-- Something that does not concern the value. -/
  | aside
  deriving DecidableEq, Repr

/-- The refresh of this caller ends. -/
def Mark.Ends {α : Type} (caller : Nat) : Mark α → Prop
  | .kept c _ | .dropped c => c = caller
  | _ => False

variable {α : Type}

def going (callers : List Nat) (e : Stamped (Mark α)) : List Nat :=
  match e.what with
  | .began c => c :: callers
  | .kept c _ | .dropped c => callers.erase c
  | _ => callers

/-- The refreshes that have begun and not ended. -/
def underWay (log : List (Stamped (Mark α))) : List Nat := log.foldl going []

def remember (value : Option (Stamped α)) (e : Stamped (Mark α)) : Option (Stamped α) :=
  match e.what with
  | .kept _ v => some ⟨e.time, v⟩
  | .forgotten => none
  | _ => value

/-- The value that is remembered, with the time since when. -/
def standing (log : List (Stamped (Mark α))) : Option (Stamped α) := log.foldl remember none

/-- The value, if it is younger than the time to live. -/
def stillGood (ttl : Duration) (now : Instant) (value : Option (Stamped α)) : Option α :=
  match value with
  | some o => if (Duration.elapsed o.time now).lt ttl then some o.what else none
  | none => none

/-- A refresh begins alone and only when nothing young enough is remembered, and only a refresh that is
under way ends. -/
def Allowed (ttl : Duration) (before : List (Stamped (Mark α))) (e : Stamped (Mark α)) : Prop :=
  match e.what with
  | .began _ => underWay before = [] ∧ ∀ o, standing before = some o → o.time + ttl.nanos ≤ e.time
  | .kept c _ | .dropped c => underWay before = [c]
  | _ => True

/-- Entries stand in the order of their times. -/
def Ascending {ι : Type} (log : List (Stamped ι)) : Prop := log.Pairwise fun a b => a.time ≤ b.time

variable {ttl : Duration} {log u v w : List (Stamped (Mark α))} {a b : Nat} {s t now : Instant}

theorem underWay_snoc (log : List (Stamped (Mark α))) (e : Stamped (Mark α)) :
    underWay (log ++ [e]) = going (underWay log) e := by
  rw [underWay, List.foldl_append]
  rfl

theorem standing_snoc (log : List (Stamped (Mark α))) (e : Stamped (Mark α)) :
    standing (log ++ [e]) = remember (standing log) e := by
  rw [standing, List.foldl_append]
  rfl

/-- What is younger than the time to live now is still good. -/
theorem elapsed_lt_iff {since now : Nat} (past : since ≤ now) (ttl : Duration) :
    (Duration.elapsed since now).lt ttl = true ↔ now < since + ttl.nanos := by
  rw [Duration.lt, decide_eq_true_eq, Duration.elapsed]
  dsimp only
  omega

theorem stillGood_some {value : Option (Stamped α)} (past : ∀ o, value = some o → o.time ≤ now) {x : α}
    (known : stillGood ttl now value = some x) :
    ∃ o, value = some o ∧ o.what = x ∧ now < o.time + ttl.nanos := by
  cases value with
  | none => cases known
  | some o =>
    rw [stillGood] at known
    split at known
    · next young => exact ⟨o, rfl, Option.some.inj known, (elapsed_lt_iff (past o rfl) ttl).mp young⟩
    · cases known

theorem stillGood_none {o : Stamped α} (past : o.time ≤ now) (unknown : stillGood ttl now (some o) = none) :
    o.time + ttl.nanos ≤ now := by
  rw [stillGood] at unknown
  split at unknown
  · cases unknown
  · next old => exact Nat.not_lt.mp fun young => old ((elapsed_lt_iff past ttl).mpr young)

/-! ### Refreshes that are under way -/

theorem underWay_length (lawful : Orderly (Allowed ttl) log) : (underWay log).length ≤ 1 := by
  induction log using List.reverseRecOn with
  | nil => exact Nat.zero_le 1
  | append_singleton before e ih =>
    have last := lawful.last
    have shorter := ih lawful.initial
    obtain ⟨time, what⟩ := e
    rw [underWay_snoc]
    cases what with
    | began c =>
      have alone : underWay before = [] := last.1
      simp [alone, going]
    | kept c value => exact Nat.le_trans List.length_erase_le shorter
    | dropped c => exact Nat.le_trans List.length_erase_le shorter
    | forgotten => exact shorter
    | aside => exact shorter

/-- A refresh stays under way until it ends. -/
theorem mem_underWay_append (begun : a ∈ underWay u) (going : ∀ e ∈ v, ¬ e.what.Ends a) :
    a ∈ underWay (u ++ v) := by
  induction v using List.reverseRecOn with
  | nil => rwa [List.append_nil]
  | append_singleton v e ih =>
    have still := ih fun x member => going x (List.mem_append_left _ member)
    have other := going e (List.mem_append_right _ (List.mem_singleton_self e))
    obtain ⟨time, what⟩ := e
    rw [← List.append_assoc, underWay_snoc]
    cases what with
    | began c => exact List.mem_cons_of_mem _ still
    | kept c value => exact (List.mem_erase_of_ne (Ne.symm other)).mpr still
    | dropped c => exact (List.mem_erase_of_ne (Ne.symm other)).mpr still
    | forgotten => exact still
    | aside => exact still

/-- Between the beginnings of two refreshes the first of them ends. -/
theorem ends_between (lawful : Orderly (Allowed ttl) log)
    (split : log = u ++ ⟨s, .began a⟩ :: v ++ ⟨t, .began b⟩ :: w) : ∃ e ∈ v, e.what.Ends a := by
  by_contra never
  push Not at never
  have begun : a ∈ underWay (u ++ [⟨s, .began a⟩]) := by
    rw [underWay_snoc]
    exact List.mem_cons_self ..
  have still := mem_underWay_append begun never
  have alone : underWay (u ++ ⟨s, .began a⟩ :: v) = [] := (lawful _ _ w split).1
  rw [List.append_assoc, List.singleton_append, alone] at still
  cases still

/-- A refresh that is under way has begun and not ended since. -/
theorem began_of_underWay (lawful : Orderly (Allowed ttl) log) {c : Nat} (going : c ∈ underWay log) :
    ∃ u t v, log = u ++ ⟨t, .began c⟩ :: v ∧ ∀ e ∈ v, ¬ e.what.Ends c := by
  induction log using List.reverseRecOn with
  | nil => cases going
  | append_singleton log e ih =>
    obtain ⟨time, what⟩ := e
    have last : Allowed ttl log ⟨time, what⟩ := lawful.last
    have older (before : c ∈ underWay log) (other : ¬ what.Ends c) : ∃ u t v,
        log ++ [⟨time, what⟩] = u ++ ⟨t, .began c⟩ :: v ∧ ∀ e ∈ v, ¬ e.what.Ends c := by
      obtain ⟨u, t, v, split, going⟩ := ih lawful.initial before
      refine ⟨u, t, v ++ [⟨time, what⟩], by simp [split], ?_⟩
      exact List.forall_mem_append.mpr ⟨going, List.forall_mem_singleton.mpr other⟩
    have alone {d : Nat} (single : underWay log = [d]) : c ∉ (underWay log).erase d := by
      rw [single, List.erase_cons_head]
      exact List.not_mem_nil
    rw [underWay_snoc] at going
    cases what with
    | began d =>
      rcases List.mem_cons.mp going with rfl | before
      · exact ⟨log, time, [], rfl, List.forall_mem_nil _⟩
      · exact older before id
    | kept d value => exact absurd going (alone last)
    | dropped d => exact absurd going (alone last)
    | forgotten => exact older going id
    | aside => exact older going id

/-! ### The value that is remembered -/

/-- What is remembered was kept at a moment of the log. -/
theorem kept_of_standing {o : Stamped α} (found : standing log = some o) :
    ∃ u c v, log = u ++ ⟨o.time, .kept c o.what⟩ :: v := by
  induction log using List.reverseRecOn with
  | nil => cases found
  | append_singleton log e ih =>
    obtain ⟨time, what⟩ := e
    have older (before : standing log = some o) :
        ∃ u c v, log ++ [⟨time, what⟩] = u ++ ⟨o.time, .kept c o.what⟩ :: v := by
      obtain ⟨u, c, v, rfl⟩ := ih before
      exact ⟨u, c, v ++ [⟨time, what⟩], by simp⟩
    rw [standing_snoc] at found
    cases what with
    | kept c value =>
      cases found
      exact ⟨log, c, [], rfl⟩
    | forgotten => cases found
    | began c => exact older found
    | dropped c => exact older found
    | aside => exact older found

theorem standing_past (past : ∀ e ∈ log, e.time ≤ now) {o : Stamped α}
    (stands : standing log = some o) : o.time ≤ now := by
  obtain ⟨u, c, v, rfl⟩ := kept_of_standing stands
  exact past ⟨o.time, .kept c o.what⟩ (by simp)

/-- What is remembered gets no older while it is not forgotten. -/
theorem standing_append {o : Stamped α} (kept : standing u = some o) (since : ∀ e ∈ v, o.time ≤ e.time)
    (remembered : ∀ e ∈ v, e.what ≠ .forgotten) :
    ∃ o', standing (u ++ v) = some o' ∧ o.time ≤ o'.time := by
  induction v using List.reverseRecOn with
  | nil => exact ⟨o, by rwa [List.append_nil], Nat.le_refl _⟩
  | append_singleton v e ih =>
    obtain ⟨o', found, order⟩ := ih (fun x member => since x (List.mem_append_left _ member))
      fun x member => remembered x (List.mem_append_left _ member)
    have later := since e (List.mem_append_right _ (List.mem_singleton_self e))
    have stays := remembered e (List.mem_append_right _ (List.mem_singleton_self e))
    obtain ⟨time, what⟩ := e
    rw [← List.append_assoc, standing_snoc, found]
    cases what with
    | kept c value => exact ⟨⟨time, value⟩, rfl, later⟩
    | forgotten => exact absurd rfl stays
    | began c => exact ⟨o', rfl, order⟩
    | dropped c => exact ⟨o', rfl, order⟩
    | aside => exact ⟨o', rfl, order⟩

/-- From the end of a refresh to the beginning of a later one the value stays good, unless it was
forgotten in between. -/
theorem began_after_kept {value : α} (lawful : Orderly (Allowed ttl) log) (ascending : Ascending log)
    (split : log = u ++ ⟨s, .kept a value⟩ :: v ++ ⟨t, .began b⟩ :: w)
    (remembered : ∀ e ∈ v, e.what ≠ .forgotten) : s + ttl.nanos ≤ t := by
  have since : ∀ e ∈ v, s ≤ e.time := by
    rw [Ascending, split, List.append_assoc, List.pairwise_append] at ascending
    have behind := (List.pairwise_cons.mp ascending.2.1).1
    exact fun e member => behind e (List.mem_append_left _ member)
  have kept : standing (u ++ [⟨s, .kept a value⟩]) = some ⟨s, value⟩ := by
    rw [standing_snoc]
    rfl
  obtain ⟨o, found, order⟩ := standing_append kept since remembered
  rw [List.append_assoc, List.singleton_append] at found
  have old : o.time + ttl.nanos ≤ t := (lawful _ _ w split).2 o found
  exact Nat.le_trans (Nat.add_le_add_right order _) old

/-! ### Marks that do not concern the value -/

/-- Marks of other things change nothing. -/
theorem aside_append (ttl : Duration) (log : List (Stamped (Mark α))) {more : List (Stamped (Mark α))}
    (aside : ∀ e ∈ more, e.what = .aside) :
    underWay (log ++ more) = underWay log ∧ standing (log ++ more) = standing log ∧
      (Orderly (Allowed ttl) log → Orderly (Allowed ttl) (log ++ more)) := by
  induction more using List.reverseRecOn with
  | nil =>
    rw [List.append_nil]
    exact ⟨rfl, rfl, id⟩
  | append_singleton more e ih =>
    obtain ⟨going, stands, lawful⟩ := ih fun x member => aside x (List.mem_append_left _ member)
    obtain ⟨time, what⟩ := e
    obtain rfl : what = .aside := aside _ (List.mem_append_right _ (List.mem_singleton_self _))
    rw [← List.append_assoc, underWay_snoc, standing_snoc]
    exact ⟨going, stands, fun h => (lawful h).snoc trivial⟩

end Courier.Flight
