import Courier.Proofs.Flight
import Courier.Proofs.Tracker
import Mathlib.Data.List.Perm.Basic
/-!
A tracker and the guards that it has given out, over every run of calls that come, guards that are dropped
in whatever order, sweeps, and waiting in between.  `recorder` notes each guard that comes or goes.  The
counts are the numbers of guards that are out, so whoever drops one takes away what is there; and a sweep
goes by what was noted of a peer, though all that the tracker keeps of that is one time.
-/
namespace Courier.Tracker

/-- What may happen to a tracker and to the guards that it has given out. -/
inductive Use where
  | enter (peer : Option String)
  /-- The guard in this place is dropped, and those behind it move up. -/
  | drop (place : Nat)
  | sweep (idle : Duration)
  | pass (d : Duration)
  deriving Repr

/-- A tracker, the peers of the guards that are out, and the time. -/
structure Shift where
  now : Instant
  tracker : Tracker := {}
  guards : List (Option String) := []

/-- The peers of the guards that came or went, latest last. -/
abbrev GuardLog := List (Stamped (Option String))

namespace Shift

def step (g : Shift) : Use → Shift
  | .enter peer =>
    { g with tracker := g.tracker.move (g.now, .enter peer), guards := g.guards ++ [peer] }
  | .drop place =>
    match g.guards[place]? with
    | some peer =>
      { g with tracker := g.tracker.move (g.now, .leave peer), guards := g.guards.eraseIdx place }
    | none => g
  | .sweep idle => { g with tracker := g.tracker.move (g.now, .sweep idle) }
  | .pass d => { g with now := g.now + d.nanos }

def recorder : Recorder Shift Use (Stamped (Option String)) where
  step := step
  notes g
    | .enter peer => [⟨g.now, peer⟩]
    | .drop place => (g.guards[place]?.map (Stamped.mk g.now)).toList
    | .sweep _ => []
    | .pass _ => []

end Shift

/-- When a guard of the peer came or went last. -/
def lastSeen (p : String) (log : GuardLog) : Option Instant :=
  (log.filter fun e => e.what == some p).getLast?.map Stamped.time

theorem lastSeen_snoc (p : String) (log : GuardLog) (now : Instant) (peer : Option String) :
    lastSeen p (log ++ [⟨now, peer⟩]) = if peer = some p then some now else lastSeen p log := by
  unfold lastSeen
  split
  · next same => simp [same]
  · next other => simp [other]

/-- A peer without guards of which none came or went within the time. -/
def Shift.spent (g : Shift) (log : GuardLog) (idle : Duration) (p : String) : Bool :=
  !g.guards.contains (some p) && (lastSeen p log).any fun t => t + idle.nanos ≤ g.now

/-! ### What a run keeps -/

/-- What the tracker counts is out, and what it remembers of a peer was noted. -/
structure Kept (g : Shift) (log : GuardLog) : Prop where
  ordered : Table.Ordered g.tracker.peers
  live : g.tracker.live = g.guards.length
  inFlight : ∀ p, g.tracker.inFlight p = g.guards.count (some p)
  seen : ∀ p stats, Table.get? p g.tracker.peers = some stats → lastSeen p log = some stats.lastSeen
  past : ∀ e ∈ log, e.time ≤ g.now

theorem Kept.start (now : Instant) : Kept ⟨now, {}, []⟩ [] where
  ordered := .nil
  live := rfl
  inFlight _ := rfl
  seen := nofun
  past := nofun

/-- A note of a peer dates the entry that is left of it, and no other entry is touched. -/
structure Dates (now : Instant) (peer : Option String) (before after : Table PeerStats) : Prop where
  own : ∀ p stats, peer = some p → Table.get? p after = some stats → stats.lastSeen = now
  others : ∀ p, peer ≠ some p → Table.get? p after = Table.get? p before

theorem Dates.insert {now : Instant} (q : String) (peers : Table PeerStats) {value : PeerStats}
    (dated : value.lastSeen = now) : Dates now (some q) peers (Table.insert q value peers) where
  own p stats same known := by
    cases same
    rw [Table.get?_insert_self] at known
    rw [← Option.some.inj known, dated]
  others p other := Table.get?_insert_of_ne (fun same => other (congrArg some same.symm)) _ _

theorem dates_enter (t : Tracker) (now : Instant) (peer : Option String) :
    Dates now peer t.peers (t.enter now peer).peers := by
  cases peer with
  | none => exact ⟨nofun, fun _ _ => rfl⟩
  | some q => exact .insert q t.peers rfl

theorem dates_leave (t : Tracker) (now : Instant) (peer : Option String) :
    Dates now peer t.peers (t.leave now peer).peers := by
  cases peer with
  | none => exact ⟨nofun, fun _ _ => rfl⟩
  | some q =>
    cases remembered : Table.get? q t.peers with
    | none =>
      have same : (t.leave now (some q)).peers = t.peers := by simp only [leave, leavePeer, remembered]
      rw [same]
      refine ⟨fun p stats own known => ?_, fun _ _ => rfl⟩
      cases own
      rw [remembered] at known
      cases known
    | some before =>
      have written : (t.leave now (some q)).peers =
          Table.insert q ⟨before.inFlight - 1, before.served + 1, now⟩ t.peers := by
        simp only [leave, leavePeer, remembered]
      rw [written]
      exact .insert q t.peers rfl

/-- Where there are calls under way there is an entry that counts them. -/
theorem exists_stats {t : Tracker} {p : String} (under_way : 0 < t.inFlight p) :
    ∃ stats, Table.get? p t.peers = some stats ∧ stats.inFlight = t.inFlight p := by
  unfold inFlight at under_way ⊢
  cases known : Table.get? p t.peers with
  | none => simp [known] at under_way
  | some stats => exact ⟨stats, rfl, rfl⟩

section

variable {g : Shift} {log : GuardLog}

theorem Kept.seen_dated (kept : Kept g log) {peer : Option String} {after : Table PeerStats}
    (dates : Dates g.now peer g.tracker.peers after) (p : String) (stats : PeerStats)
    (known : Table.get? p after = some stats) :
    lastSeen p (log ++ [⟨g.now, peer⟩]) = some stats.lastSeen := by
  rw [lastSeen_snoc]
  split
  · next own => rw [dates.own p stats own known]
  · next other => exact kept.seen p stats (dates.others p other ▸ known)

theorem Kept.past_snoc (kept : Kept g log) (peer : Option String) :
    ∀ e ∈ log ++ [⟨g.now, peer⟩], e.time ≤ g.now := by
  intro e member
  rcases List.mem_append.mp member with old | new
  · exact kept.past e old
  · exact Nat.le_of_eq (congrArg Stamped.time (List.mem_singleton.mp new))

theorem Kept.enter (kept : Kept g log) (peer : Option String) :
    Kept (g.step (.enter peer)) (log ++ [⟨g.now, peer⟩]) where
  ordered := ordered_move kept.ordered (g.now, .enter peer)
  live := by
    change g.tracker.live + 1 = (g.guards ++ [peer]).length
    rw [kept.live, List.length_append, List.length_singleton]
  inFlight p := by
    change (g.tracker.enter g.now peer).inFlight p = (g.guards ++ [peer]).count (some p)
    rw [inFlight_enter, kept.inFlight, List.count_append, List.count_singleton]
    simp [share]
  seen := kept.seen_dated (dates_enter g.tracker g.now peer)
  past := kept.past_snoc peer

theorem Kept.drop (kept : Kept g log) {place : Nat} {peer : Option String}
    (out : g.guards[place]? = some peer) :
    Kept (g.step (.drop place)) (log ++ [⟨g.now, peer⟩]) := by
  obtain ⟨inside, here⟩ := List.getElem?_eq_some_iff.mp out
  have without : (peer :: g.guards.eraseIdx place).Perm g.guards := by
    rw [← here]
    exact List.getElem_cons_eraseIdx_perm inside
  rw [Shift.step, out]
  exact {
    ordered := ordered_move kept.ordered (g.now, .leave peer)
    live := by
      change g.tracker.live - 1 = (g.guards.eraseIdx place).length
      rw [kept.live, ← without.length_eq, List.length_cons, Nat.add_sub_cancel]
    inFlight := fun p => by
      change (g.tracker.leave g.now peer).inFlight p = (g.guards.eraseIdx place).count (some p)
      rw [inFlight_leave, kept.inFlight, ← without.count_eq, List.count_cons]
      simp [share]
    seen := kept.seen_dated (dates_leave g.tracker g.now peer)
    past := kept.past_snoc peer }

theorem Kept.step (kept : Kept g log) (use : Use) :
    Kept (Shift.recorder.step g use) (log ++ Shift.recorder.notes g use) := by
  cases use with
  | enter peer => exact kept.enter peer
  | drop place =>
    cases out : g.guards[place]? with
    | none => simpa [Shift.recorder, Shift.step, out] using kept
    | some peer => simpa [Shift.recorder, out] using kept.drop out
  | sweep idle =>
    rw [show Shift.recorder.notes g (.sweep idle) = [] from rfl, List.append_nil]
    exact {
      ordered := ordered_move kept.ordered (g.now, .sweep idle)
      live := kept.live
      inFlight := fun p => (inFlight_sweep kept.ordered g.now idle p).trans (kept.inFlight p)
      seen := fun p stats known => by
        change Table.get? p (g.tracker.sweep g.now idle).peers = some stats at known
        rw [get?_sweep kept.ordered] at known
        exact kept.seen p stats (Option.filter_eq_some_iff.mp known).1
      past := kept.past }
  | pass d =>
    rw [show Shift.recorder.notes g (.pass d) = [] from rfl, List.append_nil]
    exact ⟨kept.ordered, kept.live, kept.inFlight, kept.seen,
      fun e member => Nat.le_trans (kept.past e member) (Nat.le_add_right ..)⟩

theorem Kept.run (now : Instant) (uses : List Use) :
    Kept (Shift.recorder.run ⟨now, {}, []⟩ uses).1 (Shift.recorder.run ⟨now, {}, []⟩ uses).2 :=
  Shift.recorder.run_keeps (fun _ _ use kept => kept.step use) (.start now) uses

/-! ### The account -/

/-- Leaving takes one away from both counts, and each of them had it. -/
structure TakesOne (t : Tracker) (now : Instant) (peer : Option String) : Prop where
  live : (t.leave now peer).live + 1 = t.live
  entry : ∀ p, peer = some p → ∃ before after, Table.get? p t.peers = some before ∧
    Table.get? p (t.leave now peer).peers = some after ∧ after.inFlight + 1 = before.inFlight

/-- The tracker accounts for the guards that are out. -/
structure Accounts (g : Shift) (log : GuardLog) : Prop where
  live : g.tracker.live = g.guards.length
  inFlight : ∀ p, g.tracker.inFlight p = g.guards.count (some p)
  entered : ∀ p, some p ∈ g.guards → p ∈ Table.keys g.tracker.peers
  /-- Whichever guard is dropped next. -/
  taken : ∀ peer ∈ g.guards, TakesOne g.tracker g.now peer
  /-- A sweep leaves all entries as they are but for those of spent peers. -/
  swept : ∀ idle, (g.tracker.sweep g.now idle).peers =
    g.tracker.peers.filter fun e => !g.spent log idle e.1
  pruned : ∀ idle, g.tracker.pruned g.now idle =
    (Table.keys g.tracker.peers).countP (g.spent log idle)

theorem Kept.entry (kept : Kept g log) {p : String} (out : some p ∈ g.guards) :
    ∃ stats, Table.get? p g.tracker.peers = some stats ∧ 0 < stats.inFlight := by
  have under_way : 0 < g.tracker.inFlight p := by
    rw [kept.inFlight]
    exact List.count_pos_iff.mpr out
  obtain ⟨stats, known, count⟩ := exists_stats under_way
  exact ⟨stats, known, count ▸ under_way⟩

theorem Kept.taken (kept : Kept g log) {peer : Option String} (out : peer ∈ g.guards) :
    TakesOne g.tracker g.now peer where
  live := by
    have some_guard := List.length_pos_of_mem out
    rw [← kept.live] at some_guard
    exact Nat.sub_add_cancel some_guard
  entry := by
    rintro p rfl
    obtain ⟨stats, known, busy⟩ := kept.entry out
    refine ⟨stats, ⟨stats.inFlight - 1, stats.served + 1, g.now⟩, known, ?_, Nat.sub_add_cancel busy⟩
    change Table.get? p (leavePeer g.now p g.tracker.peers) = _
    rw [leavePeer, known]
    exact Table.get?_insert_self ..

/-- What the tracker keeps of a peer says whether the peer is spent. -/
theorem Kept.isActive_eq (kept : Kept g log) (idle : Duration) {e : String × PeerStats}
    (member : e ∈ g.tracker.peers) : isActive g.now idle e.2 = !g.spent log idle e.1 := by
  have known := kept.ordered.get?_of_mem member
  have seen := kept.seen e.1 e.2 known
  have past : e.2.lastSeen ≤ g.now := by
    obtain ⟨x, last, time⟩ := Option.map_eq_some_iff.mp seen
    rw [← time]
    exact kept.past x (List.mem_filter.mp (List.mem_of_getLast? last)).1
  have busy : g.guards.contains (some e.1) = decide (0 < e.2.inFlight) := by
    have count : e.2.inFlight = g.guards.count (some e.1) := by
      rw [← kept.inFlight, Tracker.inFlight, known]
    rw [Bool.eq_iff_iff, List.contains_iff_mem, decide_eq_true_eq, count, List.count_pos_iff]
  have young : (Duration.elapsed e.2.lastSeen g.now).lt idle =
      !decide (e.2.lastSeen + idle.nanos ≤ g.now) := by
    rw [Bool.eq_iff_iff, Flight.elapsed_lt_iff past]
    simp
  rw [isActive, Shift.spent, busy, seen, young]
  simp

theorem Kept.swept (kept : Kept g log) (idle : Duration) :
    (g.tracker.sweep g.now idle).peers = g.tracker.peers.filter fun e => !g.spent log idle e.1 :=
  List.filter_congr fun _ member => kept.isActive_eq idle member

/-- What a sweep forgets and what it leaves are all there was. -/
theorem Kept.pruned (kept : Kept g log) (idle : Duration) :
    g.tracker.pruned g.now idle = (Table.keys g.tracker.peers).countP (g.spent log idle) := by
  have all := List.length_eq_countP_add_countP (fun e => g.spent log idle e.1) (l := g.tracker.peers)
  have left : (g.tracker.sweep g.now idle).connections =
      g.tracker.peers.countP fun e => !g.spent log idle e.1 := by
    rw [connections, kept.swept, List.countP_eq_length_filter]
  have gone : (Table.keys g.tracker.peers).countP (g.spent log idle) =
      g.tracker.peers.countP fun e => g.spent log idle e.1 := List.countP_map
  rw [Tracker.pruned, left, gone, connections]
  simp only [Bool.not_eq_true, Bool.decide_eq_false] at all
  omega

end

/-- Whatever happens, the tracker accounts for the guards that are out. -/
theorem accounts_for_guards (start : Instant) (uses : List Use) :
    Accounts (Shift.recorder.run ⟨start, {}, []⟩ uses).1
      (Shift.recorder.run ⟨start, {}, []⟩ uses).2 := by
  have kept := Kept.run start uses
  exact {
    live := kept.live
    inFlight := kept.inFlight
    entered := fun p out =>
      have ⟨stats, known, _⟩ := kept.entry out
      Table.mem_keys.mpr ⟨stats, known⟩
    taken := fun _ out => kept.taken out
    swept := kept.swept
    pruned := kept.pruned }

/-- A peer with a guard out is kept however idle, and one without is forgotten at the first sweep. -/
example : (Shift.recorder.run ⟨0, {}, []⟩ [.enter (some "a"), .enter (some "b"), .drop 0, .pass ⟨5⟩,
    .sweep ⟨5⟩]).1.tracker.peers = [("b", ⟨1, 0, 0⟩)] := by decide +kernel

end Courier.Tracker
