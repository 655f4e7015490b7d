import Courier.Proofs.Client.Dispatch
/-!
A client after it was closed.  Nothing that is dispatched leaves it any more, over neither transport.  Its
health can still be read, though, and a reading that finds no fresh observation asks the service: the probe
resolves the service and opens the tunnel's channel, which stays open, since closing again does nothing.
`Surroundings.noticed` records everything that is asked of the world; a closed client stays closed exactly
while all readings are answered from memory.
-/
namespace Courier

/-- Something that a client asks of the world around it. -/
inductive Contact where
  | resolved (descriptor : Descriptor)
  | checked (address : String)
  | carried (carriage : Tunnel.Carriage)
  | submitted (submission : Http.Submission)

/-- A request leaves with this. -/
def Contact.Sends : Contact → Prop
  | .carried _ | .submitted _ => True
  | _ => False

/-- A world, with everything that was asked of it, latest last. -/
abbrev Noticed (σ : Type) := σ × List Contact

/-- The same surroundings, noticed, where health checks reach the service. -/
def Surroundings.noticed {σ : Type} (w : Surroundings σ) : Surroundings (Noticed σ) where
  now x := w.now x.1
  clock x := w.clock x.1
  span x := w.span x.1
  resolve d x :=
    let (found, y) := w.resolve d x.1
    (found, (y, x.2 ++ [.resolved d]))
  probe := none
  check address limit x :=
    let (ended, y) := w.check address limit x.1
    (ended, (y, x.2 ++ [.checked address]))
  carry g x :=
    let (delivery, y) := w.carry g x.1
    (delivery, (y, x.2 ++ [.carried g]))
  submit sub x :=
    let (delivery, y) := w.submit sub x.1
    (delivery, (y, x.2 ++ [.submitted sub]))
  word := w.word

/-- What can be done with a client, and what the world does meanwhile. -/
inductive Usage (σ : Type) where
  | dispatch (context : Context) (r : Request)
  | dispatchOver (t : Transport) (context : Context) (r : Request)
  | status
  | isServing
  | peek
  | invalidate
  | close
  | meanwhile (change : σ → σ)

namespace Client

@[simp] theorem close_name (c : Client) : c.close.name = c.name := by
  rw [close]
  split <;> rfl

@[simp] theorem close_closed (c : Client) : c.close.closed = true := by
  rw [close]
  split
  · next closed => exact closed
  · rfl

theorem close_of_closed {c : Client} (closed : c.closed = true) : c.close = c := if_pos closed

end Client

namespace Usage

variable {σ : Type} (w : Surroundings σ)

/-- A use of a client, without what it answers. -/
def act : Usage σ → Act (Noticed σ) Unit
  | .dispatch context r => do let _ ← Client.dispatch w.noticed context r
  | .dispatchOver t context r => do let _ ← Client.dispatchOver w.noticed t context r
  | .status => do let _ ← Client.status w.noticed
  | .isServing => do let _ ← Client.isServing w.noticed
  | .peek => do let _ := (← Act.client).health.peek
  | .invalidate => Client.invalidate
  | .close => Act.modifyClient Client.close
  | .meanwhile change => Act.outside fun x => ((), (change x.1, x.2))

/-- A use that reads the service's health, and asks the service when nothing fresh is remembered. -/
def Reads : Usage σ → Prop
  | .dispatch .. | .status | .isServing => True
  | _ => False

def after (s : Session (Noticed σ)) (u : Usage σ) : Session (Noticed σ) := (Act.on (u.act w) s).2

/-- The session after uses one after the other. -/
def run (s : Session (Noticed σ)) (us : List (Usage σ)) : Session (Noticed σ) := us.foldl (after w) s

/-- The observation that is remembered is fresh. -/
def Fresh (s : Session (Noticed σ)) : Prop := (s.client.health.fresh? (w.now s.world.1)).isSome = true

/-- Every reading finds a fresh observation. -/
def Remembered : Session (Noticed σ) → List (Usage σ) → Prop
  | _, [] => True
  | s, u :: us => (u.Reads → Fresh w s) ∧ Remembered (after w s u) us

/-- Channel and pool are empty, and nothing was asked of the world since `s`. -/
structure Shut (s s' : Session (Noticed σ)) : Prop where
  channel : s'.client.channel = none
  pooled : s'.client.pooled = false
  record : s'.world.2 = s.world.2

/-- At every moment of these uses the client is shut. -/
def StaysShut (s : Session (Noticed σ)) (us : List (Usage σ)) : Prop :=
  ∀ before, before <+: us → Shut s (run w s before)

end Usage

/-! ### What a use of a closed client does -/

namespace Client

variable {σ : Type} {w : Surroundings σ}

/-- Nothing is asked of the world, and what is open or closed stays so. -/
structure Still (s s' : Session (Noticed σ)) : Prop where
  closed : s'.client.closed = s.client.closed
  channel : s'.client.channel = s.client.channel
  pooled : s'.client.pooled = s.client.pooled
  record : s'.world.2 = s.world.2

/-- The service was asked for its health. -/
structure Probed (w : Surroundings σ) (s s' : Session (Noticed σ)) : Prop where
  closed : s'.client.closed = s.client.closed
  pooled : s'.client.pooled = s.client.pooled
  record : ∃ more, s'.world.2 = s.world.2 ++ .resolved s.client.descriptor :: more ∧ ∀ c ∈ more, ¬ c.Sends
  /-- A channel that there was is still there. -/
  kept : s.client.channel.isSome = true → s'.client.channel.isSome = true
  /-- The channel leads to where the service was found. -/
  opened : ∀ e, (w.resolve s.client.descriptor s.world.1).1 = .ok e →
    (Http.Uri.parse? e.tunnelAddress).isSome = true → s'.client.channel = some e.tunnelAddress

theorem Still.refl (s : Session (Noticed σ)) : Still s s := ⟨rfl, rfl, rfl, rfl⟩

theorem probe_probed (w : Surroundings σ) (s : Session (Noticed σ)) :
    Probed w s (Act.on (probe w.noticed) s).2 := by
  change Probed w s (Act.on (check w.noticed) s).2
  unfold check
  rw [Act.on_bind_ok (resolve_on w.noticed s)]
  cases found : w.resolve s.client.descriptor s.world.1 with
  | mk result x =>
    have resolved : w.noticed.resolve s.client.descriptor s.world =
        (result, (x, s.world.2 ++ [.resolved s.client.descriptor])) := by
      simp only [Surroundings.noticed, found]
    rw [resolved]
    cases result with
    | error e => exact ⟨rfl, rfl, ⟨[], rfl, nofun⟩, id, by simp [found]⟩
    | ok e =>
      dsimp only
      by_cases usable : Openable s.client e.tunnelAddress
      · -- From here the channel leads to the address, however the check itself ends.
        have channel : ∀ e', (w.resolve s.client.descriptor s.world.1).1 = .ok e' →
            some e.tunnelAddress = some e'.tunnelAddress := by
          rw [found]
          rintro e' same
          cases same
          rfl
        rw [Act.on_bind, openChannel_on, if_pos usable]
        dsimp only
        rw [Act.on_bind_ok (Act.on_client _)]
        cases Rpc.Deadline.write? (connected _ e.tunnelAddress).client.probeTimeout with
        | none => exact ⟨rfl, rfl, ⟨[], rfl, nofun⟩, fun _ => rfl, fun e' same _ => channel e' same⟩
        | some deadline =>
          refine ⟨rfl, rfl, ⟨[.checked e.tunnelAddress], ?_, ?_⟩, fun _ => rfl, ?_⟩
          · exact List.append_assoc ..
          · exact List.forall_mem_singleton.mpr id
          · exact fun e' same _ => channel e' same
      · rw [Act.on_bind, openChannel_on, if_neg usable]
        refine ⟨rfl, rfl, ⟨[], rfl, nofun⟩, id, fun e' same parsed => ?_⟩
        rw [found] at same
        cases same
        exact absurd (.inr parsed) usable

/-- A reading that finds a fresh observation asks nobody. -/
theorem status_still {s : Session (Noticed σ)} (fresh : Usage.Fresh w s) :
    Still s (Act.on (status w.noticed) s).2 := by
  obtain ⟨h, known⟩ : ∃ h, s.client.health.fresh? (w.noticed.now s.world) = some h :=
    Option.isSome_iff_exists.mp fresh
  unfold status
  rw [Act.on_bind_ok (Act.on_client s), Act.on_bind_ok (Act.on_ask _ s), known]
  exact .refl s

/-- Any other asks the service. -/
theorem status_probed {s : Session (Noticed σ)} (stale : ¬ Usage.Fresh w s) :
    Probed w s (Act.on (status w.noticed) s).2 := by
  have unknown : s.client.health.fresh? (w.noticed.now s.world) = none :=
    Option.not_isSome_iff_eq_none.mp stale
  have probed := probe_probed w s
  unfold status
  rw [Act.on_bind_ok (Act.on_client s), Act.on_bind_ok (Act.on_ask _ s), unknown]
  dsimp only
  rw [Act.on_bind]
  cases asked : Act.on (probe w.noticed) s with
  | mk result s' =>
    rw [asked] at probed
    cases result with
    | error b => exact probed
    | ok h => exact ⟨probed.closed, probed.pooled, probed.record, probed.kept, probed.opened⟩

theorem isServing_after (w : Surroundings (Noticed σ)) (s : Session (Noticed σ)) :
    (Act.on (isServing w) s).2 = (Act.on (status w) s).2 := by
  unfold isServing
  rw [Act.on_bind]
  cases Act.on (status w) s with
  | mk result s' => cases result <;> rfl

section

variable (context : Context) (r : Request)

/-- A closed client sends nothing. -/
theorem send_shut (w : Surroundings (Noticed σ)) (t : Transport) {s : Session (Noticed σ)}
    (closed : s.client.closed = true) : Act.on (send w t context r) s = (.ok (.error s.client.shut), s) := by
  unfold send
  rw [Act.on_bind_ok (Act.on_client s), if_pos closed]
  rfl

theorem dispatchOver_still (t : Transport) {s : Session (Noticed σ)} (closed : s.client.closed = true) :
    Still s (Act.on (dispatchOver w.noticed t context r) s).2 := by
  rw [dispatchOver_on, send_shut context r _ t closed]
  exact ⟨rfl, rfl, rfl, rfl⟩

/-- Of a dispatch nothing is left but the reading of the health. -/
theorem dispatch_still {s : Session (Noticed σ)}
    (closed : (Act.on (isServing w.noticed) s).2.client.closed = true) :
    Still (Act.on (isServing w.noticed) s).2 (Act.on (dispatch w.noticed context r) s).2 := by
  rw [dispatch_on]
  cases answered : Act.on (isServing w.noticed) s with
  | mk answer s' =>
    rw [answered] at closed
    cases answer with
    | error b => exact .refl s'
    | ok served =>
      cases served with
      | false => exact dispatchOver_still context r .http closed
      | true =>
        dsimp only
        rw [send_shut context r _ .tunnel closed]
        exact ⟨rfl, rfl, rfl, rfl⟩

end

theorem Still.trans {s s' s'' : Session (Noticed σ)} (h : Still s s') (h' : Still s' s'') : Still s s'' :=
  ⟨h'.closed.trans h.closed, h'.channel.trans h.channel, h'.pooled.trans h.pooled, h'.record.trans h.record⟩

theorem Probed.still {s s' s'' : Session (Noticed σ)} (h : Probed w s s') (h' : Still s' s'') :
    Probed w s s'' where
  closed := h'.closed.trans h.closed
  pooled := h'.pooled.trans h.pooled
  record := by rw [h'.record]; exact h.record
  kept := by rw [h'.channel]; exact h.kept
  opened := by rw [h'.channel]; exact h.opened

/-- What a reading of the health does, a dispatch by a closed client does. -/
theorem reading_cases {s s' : Session (Noticed σ)} (still : Still (Act.on (status w.noticed) s).2 s') :
    (Usage.Fresh w s → Still s s') ∧ (¬ Usage.Fresh w s → Probed w s s') :=
  ⟨fun fresh => (status_still fresh).trans still, fun stale => (status_probed stale).still still⟩

end Client

namespace Usage

variable {σ : Type} {w : Surroundings σ}

theorem after_of_act {α : Type} {a : Act (Noticed σ) α} {u : Usage σ} (s : Session (Noticed σ))
    (same : u.act w = do let _ ← a) : u.after w s = (Act.on a s).2 := by
  rw [after, same, Act.on_bind]
  cases Act.on a s with
  | mk result s' => cases result <;> rfl

/-- A use of a closed client asks the service for its health, if it reads that and nothing fresh is
remembered, and otherwise leaves everything still. -/
theorem after_cases {s : Session (Noticed σ)} (closed : s.client.closed = true) (u : Usage σ) :
    ((u.Reads → Fresh w s) → Client.Still s (u.after w s)) ∧
      (u.Reads → ¬ Fresh w s → Client.Probed w s (u.after w s)) := by
  cases u with
  | dispatch context r =>
    have shut : (Act.on (Client.isServing w.noticed) s).2.client.closed = true := by
      rw [Client.isServing_after]
      by_cases fresh : Fresh w s
      · exact (Client.status_still fresh).closed.trans closed
      · exact (Client.status_probed fresh).closed.trans closed
    have still := Client.dispatch_still context r shut
    rw [Client.isServing_after] at still
    rw [after_of_act s rfl]
    exact (Client.reading_cases still).imp (fun h given => h (given trivial)) fun h _ => h
  | status =>
    rw [after_of_act s rfl]
    exact (Client.reading_cases (.refl _)).imp (fun h given => h (given trivial)) fun h _ => h
  | isServing =>
    rw [after_of_act s rfl, Client.isServing_after]
    exact (Client.reading_cases (.refl _)).imp (fun h given => h (given trivial)) fun h _ => h
  | dispatchOver t context r =>
    rw [after_of_act s rfl]
    exact ⟨fun _ => Client.dispatchOver_still context r t closed, False.elim⟩
  | close =>
    refine ⟨fun _ => ?_, False.elim⟩
    have same : { s with client := s.client.close } = s := by rw [Client.close_of_closed closed]
    change Client.Still s { s with client := s.client.close }
    rw [same]
    exact .refl s
  | peek | invalidate | meanwhile => exact ⟨fun _ => ⟨rfl, rfl, rfl, rfl⟩, False.elim⟩

/-! ### Uses one after the other -/

/-- What any uses of a closed client come to. -/
structure Onward (s s' : Session (Noticed σ)) : Prop where
  closed : s'.client.closed = true
  pooled : s'.client.pooled = s.client.pooled
  record : ∃ more, s'.world.2 = s.world.2 ++ more ∧ ∀ c ∈ more, ¬ c.Sends
  kept : s.client.channel.isSome = true → s'.client.channel.isSome = true

variable {s : Session (Noticed σ)}

theorem after_onward (closed : s.client.closed = true) (u : Usage σ) : Onward s (u.after w s) := by
  obtain ⟨still, probed⟩ := after_cases (w := w) closed u
  by_cases asks : u.Reads ∧ ¬ Fresh w s
  · obtain ⟨same, pooled, ⟨more, record, silent⟩, kept, _⟩ := probed asks.1 asks.2
    exact ⟨same.trans closed, pooled, ⟨_, record, List.forall_mem_cons.mpr ⟨id, silent⟩⟩, kept⟩
  · obtain ⟨same, channel, pooled, record⟩ := still (not_and_not_right.mp asks)
    refine ⟨same.trans closed, pooled, ⟨[], ?_, nofun⟩, fun here => ?_⟩
    · rw [record, List.append_nil]
    · rw [channel, here]

theorem run_onward (closed : s.client.closed = true) (us : List (Usage σ)) : Onward s (run w s us) := by
  induction us generalizing s with
  | nil => exact ⟨closed, rfl, ⟨[], (List.append_nil _).symm, nofun⟩, id⟩
  | cons u rest ih =>
    have one := after_onward (w := w) closed u
    obtain ⟨shut, pooled, ⟨more, record, silent⟩, kept⟩ := ih one.closed
    obtain ⟨first, before, quiet⟩ := one.record
    refine ⟨shut, pooled.trans one.pooled, ⟨first ++ more, ?_, ?_⟩, fun here => kept (one.kept here)⟩
    · change (run w (u.after w s) rest).world.2 = _
      rw [record, before, List.append_assoc]
    · exact List.forall_mem_append.mpr ⟨quiet, silent⟩

theorem Onward.length_le {s s' : Session (Noticed σ)} (h : Onward s s') :
    s.world.2.length ≤ s'.world.2.length := by
  obtain ⟨more, record, _⟩ := h.record
  rw [record, List.length_append]
  exact Nat.le_add_right ..

/-- A reading that finds nothing fresh asks the service, and nothing later takes that back. -/
theorem run_probed (closed : s.client.closed = true) {before : List (Usage σ)} {u : Usage σ}
    (after : List (Usage σ)) (reads : u.Reads) (stale : ¬ Fresh w (run w s before)) :
    s.world.2.length < (run w s (before ++ u :: after)).world.2.length ∧
      ∀ e, (w.resolve (run w s before).client.descriptor (run w s before).world.1).1 = .ok e →
        (Http.Uri.parse? e.tunnelAddress).isSome = true →
        (run w s (before ++ u :: after)).client.channel.isSome = true := by
  have split : run w s (before ++ u :: after) = run w (u.after w (run w s before)) after := by
    rw [run, List.foldl_append]
    rfl
  have first := run_onward (w := w) closed before
  have probed := (after_cases first.closed u).2 reads stale
  have last := run_onward (w := w) (probed.closed.trans first.closed) after
  rw [split]
  refine ⟨?_, fun e found parsed => last.kept ?_⟩
  · obtain ⟨more, record, _⟩ := probed.record
    refine Nat.lt_of_lt_of_le ?_ last.length_le
    rw [record, List.length_append]
    exact Nat.lt_of_le_of_lt first.length_le (Nat.lt_add_of_pos_right (Nat.succ_pos _))
  · rw [probed.opened e found parsed]
    rfl

theorem Remembered.still (closed : s.client.closed = true) {us : List (Usage σ)} (h : Remembered w s us) :
    Client.Still s (run w s us) := by
  induction us generalizing s with
  | nil => exact .refl s
  | cons u rest ih =>
    have one := (after_cases closed u).1 h.1
    exact one.trans (ih (one.closed.trans closed) h.2)

theorem Remembered.initial {before after : List (Usage σ)} (h : Remembered w s (before ++ after)) :
    Remembered w s before := by
  induction before generalizing s with
  | nil => trivial
  | cons u rest ih => exact ⟨h.1, ih h.2⟩

/-- If not every reading finds a fresh observation, there is a first one that finds none. -/
theorem exists_stale {us : List (Usage σ)} (h : ¬ Remembered w s us) :
    ∃ before u after, us = before ++ u :: after ∧ u.Reads ∧ ¬ Fresh w (run w s before) := by
  induction us generalizing s with
  | nil => exact absurd trivial h
  | cons u rest ih =>
    by_cases asks : u.Reads ∧ ¬ Fresh w s
    · exact ⟨[], u, rest, rfl, asks.1, asks.2⟩
    · have later : ¬ Remembered w (u.after w s) rest := fun all => h ⟨not_and_not_right.mp asks, all⟩
      obtain ⟨before, v, after, rfl, reads, stale⟩ := ih later
      exact ⟨u :: before, v, after, rfl, reads, stale⟩

/-- What is true of uses of a client after it was closed. -/
structure Closing (w : Surroundings σ) (s : Session (Noticed σ)) (us : List (Usage σ)) : Prop where
  /-- Channel and pool stay empty and nothing is asked of the world exactly if every reading of the health
  finds a fresh observation. -/
  stays : StaysShut w s us ↔ Remembered w s us
  /-- In any case there is no pool and no request leaves. -/
  silent : (run w s us).client.closed = true ∧ (run w s us).client.pooled = false ∧
    ∃ more, (run w s us).world.2 = s.world.2 ++ more ∧ ∀ c ∈ more, ¬ c.Sends
  /-- A reading that finds no fresh observation asks the service; if the service is found the channel is
  open from then on, whatever is done and however often the client is closed again. -/
  reopens : ∀ before u after, us = before ++ u :: after → u.Reads → ¬ Fresh w (run w s before) →
    s.world.2.length < (run w s us).world.2.length ∧
    ∀ e, (w.resolve (run w s before).client.descriptor (run w s before).world.1).1 = .ok e →
      (Http.Uri.parse? e.tunnelAddress).isSome = true → (run w s us).client.channel.isSome = true

/-- For every client that was open until it was closed, and all uses after that. -/
theorem stays_shut_iff (w : Surroundings σ) (opened : s.client.closed = false) (us : List (Usage σ)) :
    Closing w { s with client := s.client.close } us := by
  have emptied : s.client.close = { s.client with closed := true, channel := none, pooled := false } :=
    if_neg (by rw [opened]; exact Bool.false_ne_true)
  have closed : { s with client := s.client.close }.client.closed = true := Client.close_closed _
  have onward := run_onward (w := w) closed us
  refine ⟨⟨fun shut => ?_, fun remembered before front => ?_⟩, ⟨onward.closed, ?_, onward.record⟩, ?_⟩
  · by_contra forgotten
    obtain ⟨before, u, after, rfl, reads, stale⟩ := exists_stale forgotten
    have longer := (run_probed closed after reads stale).1
    rw [(shut _ (List.prefix_refl _)).record] at longer
    exact absurd longer (Nat.lt_irrefl _)
  · obtain ⟨after, rfl⟩ := front
    obtain ⟨_, channel, pooled, record⟩ := remembered.initial.still closed
    exact ⟨by rw [channel, emptied], by rw [pooled, emptied], record⟩
  · rw [onward.pooled, emptied]
  · rintro before u after rfl reads stale
    exact run_probed closed after reads stale

/-! ### A client that is asked for its health after it was closed -/

/-- An open client that remembers nothing. -/
def unasked : Session (Noticed Unit) where
  client := .signedIn
  world := ((), [])

/-- Closed again and again, its channel is open after the first reading. -/
theorem unasked_reopens :
    unasked.client.closed = false ∧
      Closing .still { unasked with client := unasked.client.close } [.close, .status, .close] :=
  ⟨rfl, stays_shut_iff .still rfl _⟩

/-- A client that was closed does not stay shut. -/
theorem closed_client_probes :
    ¬ ∀ (w : Surroundings Unit) (s : Session (Noticed Unit)) (us : List (Usage Unit)),
      s.client.closed = false → StaysShut w { s with client := s.client.close } us := by
  intro all
  have shut := all .still unasked [.status] rfl _ (List.prefix_refl _)
  exact absurd (congrArg Option.isSome shut.channel) (by decide +kernel)

end Usage
end Courier
