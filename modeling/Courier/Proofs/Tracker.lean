import Courier.Tracker
import Courier.Proofs.Table
/-!
One call among the others of a tracker.  Entering adds one to the calls under way and to those of the
peer, leaving takes one away and sweeping neither, so a call that has left counts no more: whatever
the others did in the meantime, the counts are those of a tracker that never saw it.
-/
namespace Courier

namespace Tracker

/-- What may happen to a tracker. -/
inductive Move where
  | enter (peer : Option String)
  | leave (peer : Option String)
  | sweep (idle : Duration)
  deriving Repr

def move (t : Tracker) : Instant × Move → Tracker
  | (now, .enter peer) => t.enter now peer
  | (now, .leave peer) => t.leave now peer
  | (now, .sweep idle) => t.sweep now idle

def moves (t : Tracker) (all : List (Instant × Move)) : Tracker := all.foldl move t

/-- Only a call that is under way leaves. -/
def CanMove (t : Tracker) : Move → Prop
  | .leave peer => 0 < t.live ∧ ∀ p, peer = some p → 0 < t.inFlight p
  | _ => True

def CanMoves (t : Tracker) : List (Instant × Move) → Prop
  | [] => True
  | e :: rest => t.CanMove e.2 ∧ (t.move e).CanMoves rest

/-- What a call of `peer` has in the count of `p`. -/
def share (peer : Option String) (p : String) : Nat := if peer = some p then 1 else 0

/-! ### The counts after one move -/

section

variable (t : Tracker) (now : Instant) (peer : Option String) (p : String)

theorem inFlight_enter : (t.enter now peer).inFlight p = t.inFlight p + share peer p := by
  cases peer with
  | none => simp [enter, inFlight, share]
  | some q =>
    by_cases same : q = p
    · subst same
      simp only [enter, inFlight, enterPeer, Table.get?_insert_self, share, if_true]
      cases Table.get? q t.peers <;> rfl
    · simp [enter, inFlight, enterPeer, share, same, Table.get?_insert_of_ne (Ne.symm same)]

/-- A peer that was forgotten has no calls under way, and none to lose. -/
theorem inFlight_leave : (t.leave now peer).inFlight p = t.inFlight p - share peer p := by
  cases peer with
  | none => simp [leave, inFlight, share]
  | some q =>
    cases known : Table.get? q t.peers with
    | none =>
      simp only [leave, inFlight, leavePeer, known, share]
      by_cases same : q = p
      · subst same
        simp [known]
      · simp [same]
    | some stats =>
      by_cases same : q = p
      · subst same
        simp [leave, inFlight, leavePeer, known, share, Table.get?_insert_self]
      · simp [leave, inFlight, leavePeer, known, share, same, Table.get?_insert_of_ne (Ne.symm same)]

end

theorem get?_sweep {t : Tracker} (ordered : Table.Ordered t.peers) (now : Instant) (idle : Duration)
    (p : String) :
    Table.get? p (t.sweep now idle).peers = (Table.get? p t.peers).filter (isActive now idle) :=
  Table.get?_filter ordered (isActive now idle) p

/-- A sweep forgets no peer with calls under way. -/
theorem inFlight_sweep {t : Tracker} (ordered : Table.Ordered t.peers) (now : Instant) (idle : Duration)
    (p : String) : (t.sweep now idle).inFlight p = t.inFlight p := by
  unfold inFlight
  rw [get?_sweep ordered]
  cases Table.get? p t.peers with
  | none => rfl
  | some stats =>
    cases active : isActive now idle stats with
    | true => rw [Option.filter_some, if_pos active]
    | false =>
      have none_left : stats.inFlight = 0 := by
        simp only [isActive, Bool.or_eq_false_iff, decide_eq_false_iff_not, Nat.not_lt] at active
        omega
      rw [Option.filter_some, if_neg (by simp [active])]
      exact none_left.symm

theorem ordered_move {t : Tracker} (ordered : Table.Ordered t.peers) (e : Instant × Move) :
    Table.Ordered (t.move e).peers := by
  obtain ⟨now, moved⟩ := e
  cases moved with
  | enter peer =>
    cases peer with
    | none => exact ordered
    | some q => exact ordered.insert q _
  | leave peer =>
    cases peer with
    | none => exact ordered
    | some q =>
      simp only [move, leave, leavePeer]
      split
      · exact ordered.insert q _
      · exact ordered
  | sweep idle => exact List.Pairwise.sublist (List.filter_sublist.map Prod.fst) ordered

/-! ### One call more -/

/-- The counts agree. -/
structure Agrees (t t' : Tracker) : Prop where
  live : t'.live = t.live
  inFlight : ∀ p, t'.inFlight p = t.inFlight p

/-- The counts agree, but for one call of `peer` that only the second tracker has. -/
structure Beside (peer : Option String) (t t' : Tracker) : Prop where
  live : t'.live = t.live + 1
  inFlight : ∀ p, t'.inFlight p = t.inFlight p + share peer p

variable {t t' : Tracker} {peer : Option String}

theorem Beside.of_enter (t : Tracker) (now : Instant) (peer : Option String) :
    Beside peer t (t.enter now peer) :=
  ⟨rfl, inFlight_enter t now peer⟩

theorem Beside.leave (h : Beside peer t t') (now : Instant) : Agrees t (t'.leave now peer) where
  live := by
    change t'.live - 1 = t.live
    rw [h.live]
    rfl
  inFlight p := by
    rw [inFlight_leave, h.inFlight p]
    exact Nat.add_sub_cancel ..

theorem Beside.move (h : Beside peer t t') (ordered : Table.Ordered t.peers)
    (ordered' : Table.Ordered t'.peers) {e : Instant × Move} (can : t.CanMove e.2) :
    Beside peer (t.move e) (t'.move e) := by
  obtain ⟨now, moved⟩ := e
  have alive := h.live
  cases moved with
  | enter other =>
    refine ⟨congrArg (· + 1) alive, fun p => ?_⟩
    rw [Tracker.move, Tracker.move, inFlight_enter, inFlight_enter, h.inFlight p]
    omega
  | leave other =>
    obtain ⟨some_call, of_peer⟩ := can
    refine ⟨?_, fun p => ?_⟩
    · change t'.live - 1 = t.live - 1 + 1
      omega
    · rw [Tracker.move, Tracker.move, inFlight_leave, inFlight_leave, h.inFlight p]
      by_cases same : other = some p
      · have := of_peer p same
        simp only [share, same, if_true]
        omega
      · simp only [share, same, if_false]
        omega
  | sweep idle =>
    refine ⟨alive, fun p => ?_⟩
    rw [Tracker.move, Tracker.move, inFlight_sweep ordered, inFlight_sweep ordered', h.inFlight p]

theorem Beside.moves (h : Beside peer t t') (ordered : Table.Ordered t.peers)
    (ordered' : Table.Ordered t'.peers) {others : List (Instant × Move)} (can : t.CanMoves others) :
    Beside peer (t.moves others) (t'.moves others) := by
  induction others generalizing t t' with
  | nil => exact h
  | cons e rest ih =>
    exact ih (h.move ordered ordered' can.1) (ordered_move ordered e) (ordered_move ordered' e) can.2

/-- A call that has come and gone counts no more, whatever others did meanwhile. -/
theorem enter_moves_leave (ordered : Table.Ordered t.peers) {others : List (Instant × Move)}
    (can : t.CanMoves others) (came left : Instant) (peer : Option String) :
    Agrees (t.moves others) (((t.enter came peer).moves others).leave left peer) :=
  ((Beside.of_enter t came peer).moves ordered (ordered_move ordered (came, .enter peer)) can).leave left

end Tracker
end Courier
