import Courier.Proofs.Client.Dispatch
/-!
What a client says of the health of its service.  `finding` is what asking the service comes to at one
moment.  As long as that stays the same, and what the client remembers is not wrong while it is fresh, the
client says just that, asked once or many times, from memory or not.
-/
namespace Courier

/-- What is fresh later was fresh before. -/
theorem Health.Cache.fresh?_of_later {c : Health.Cache} {now later : Instant} {h : HealthStatus}
    (passed : now ≤ later) (fresh : c.fresh? later = some h) : c.fresh? now = some h := by
  unfold fresh? at fresh ⊢
  cases stored : c.stored with
  | none =>
    rw [stored] at fresh
    cases fresh
  | some o =>
    simp only [stored] at fresh ⊢
    split at fresh
    · next inTime =>
      have young : later - o.checkedAt < c.ttl.nanos := of_decide_eq_true inTime
      have younger : (Duration.elapsed o.checkedAt now).lt c.ttl = true :=
        decide_eq_true (Nat.lt_of_le_of_lt (Nat.sub_le_sub_right passed _) young)
      rw [if_pos younger]
      exact fresh
    · cases fresh

/-- What was recorded is all that can be fresh. -/
theorem Health.Cache.eq_of_fresh?_record {c : Health.Cache} {h h' : HealthStatus} {seen now : Instant}
    (fresh : (c.record h seen).fresh? now = some h') : h = h' := by
  rw [record, fresh?, Option.ite_none_right_eq_some] at fresh
  exact Option.some.inj fresh.2

namespace Client

variable {σ : Type}

/-- What a service is found to be by asking it now.  Without an address it is not known how it is, and a
deadline that cannot be written stops the client. -/
def finding (w : Surroundings σ) (d : Descriptor) (limit : Duration) (x : σ) : Except Breach HealthStatus :=
  match w.probe with
  | some p => .ok (p d.name x).1
  | none =>
    match w.resolve d x with
    | (.error _, _) => .ok .unknown
    | (.ok e, y) =>
      if (Http.Uri.parse? e.tunnelAddress).isNone then .ok .unknown
      else
        match Rpc.Deadline.write? limit with
        | none => .error .deadlineTooLong
        | some _ => .ok (w.check e.tunnelAddress limit y).1.status

/-- A channel that is there leads to an address. -/
def Channelled (c : Client) : Prop :=
  ∀ address, c.channel = some address → (Http.Uri.parse? address).isSome = true

/-- What asking the service gives, and leaves. -/
structure Asked (w : Surroundings σ) (s : Session σ) (r : Except Breach HealthStatus × Session σ) : Prop where
  found : r.1 = finding w s.client.descriptor s.client.probeTimeout s.world
  health : r.2.client.health = s.client.health
  channelled : Channelled r.2.client

theorem probe_asked (w : Surroundings σ) {s : Session σ} (channelled : Channelled s.client) :
    Asked w s (Act.on (probe w) s) := by
  unfold probe
  cases scripted : w.probe with
  | some p =>
    refine ⟨?_, rfl, channelled⟩
    rw [finding, scripted]
    rfl
  | none =>
    change Asked w s (Act.on (check w) s)
    unfold check
    rw [Act.on_bind_ok (resolve_on w s)]
    cases found : w.resolve s.client.descriptor s.world with
    | mk result x =>
      cases result with
      | error e => exact ⟨by simp [finding, scripted, found], rfl, channelled⟩
      | ok e =>
        dsimp only
        by_cases usable : Openable s.client e.tunnelAddress
        · have parsed : (Http.Uri.parse? e.tunnelAddress).isSome = true :=
            usable.elim (channelled e.tunnelAddress) id
          have opened : Channelled (connected { s with world := x } e.tunnelAddress).client := by
            rintro address ⟨⟩
            exact parsed
          have readable : (Http.Uri.parse? e.tunnelAddress).isNone = false := by
            rw [Option.isNone_eq_false_iff, parsed]
          rw [Act.on_bind, openChannel_on, if_pos usable]
          dsimp only
          rw [Act.on_bind_ok (Act.on_client _)]
          have limit : (connected { s with world := x } e.tunnelAddress).client.probeTimeout =
              s.client.probeTimeout := rfl
          rw [limit]
          cases written : Rpc.Deadline.write? s.client.probeTimeout with
          | none => exact ⟨by simp [finding, scripted, found, readable, written], rfl, opened⟩
          | some deadline =>
            refine ⟨?_, rfl, opened⟩
            simp only [finding, scripted, found, readable, written]
            rfl
        · have unreadable : (Http.Uri.parse? e.tunnelAddress).isNone = true :=
            Option.isNone_iff_eq_none.mpr (Option.not_isSome_iff_eq_none.mp fun parsed => usable (.inr parsed))
          rw [Act.on_bind, openChannel_on, if_neg usable]
          exact ⟨by simp [finding, scripted, found, unreadable], rfl, channelled⟩

/-- A client of the service that this is the descriptor of, which asks with this deadline.  What it
remembers, while that is fresh, is how the service is. -/
structure Informed (d : Descriptor) (limit : Duration) (health : Except Breach HealthStatus) (now : Instant)
    (c : Client) : Prop where
  descriptor : c.descriptor = d
  limit : c.probeTimeout = limit
  channelled : Channelled c
  remembered : ∀ h, c.health.fresh? now = some h → health = .ok h

variable {d : Descriptor} {limit : Duration} {health : Except Breach HealthStatus}

theorem Informed.later {now later : Instant} {c : Client} (h : Informed d limit health now c)
    (passed : now ≤ later) : Informed d limit health later c where
  descriptor := h.descriptor
  limit := h.limit
  channelled := h.channelled
  remembered := fun status fresh => h.remembered status (Health.Cache.fresh?_of_later passed fresh)

/-- Time does not go back while services are resolved and asked. -/
abbrev Forward (w : Surroundings σ) : Prop := Keeping w fun x y => w.now x ≤ w.now y

/-- An informed client says how its service is, and stays informed. -/
theorem isServing_informed {w : Surroundings σ} (time : Forward w) {s : Session σ}
    (informed : Informed d limit health (w.now s.world) s.client)
    (steady : ∀ x, w.now s.world ≤ w.now x → finding w d limit x = health) :
    (Act.on (isServing w) s).1 = health.map (· == .serving) ∧
      Informed d limit health (w.now (Act.on (isServing w) s).2.world) (Act.on (isServing w) s).2.client := by
  have answered : ∀ r, Act.on (status w) s = r → r.1 = health ∧
      Informed d limit health (w.now r.2.world) r.2.client := by
    rintro _ rfl
    have moved := probe_along time s
    have asked := probe_asked w informed.channelled
    unfold status
    rw [Act.on_bind_ok (Act.on_client s), Act.on_bind_ok (Act.on_ask _ s)]
    cases known : s.client.health.fresh? (w.now s.world) with
    | some h => exact ⟨(informed.remembered h known).symm, informed⟩
    | none =>
      have found := asked.found
      rw [informed.descriptor, informed.limit, steady s.world (Nat.le_refl _)] at found
      dsimp only
      rw [Act.on_bind]
      cases ran : Act.on (probe w) s with
      | mk result s' =>
        rw [ran] at moved asked found
        have kept : Informed d limit health (w.now s'.world) s'.client := {
          descriptor := moved.client.descriptor.trans informed.descriptor
          limit := moved.client.probeTimeout.trans informed.limit
          channelled := asked.channelled
          remembered := fun h fresh => by
            rw [asked.health] at fresh
            exact informed.remembered h (Health.Cache.fresh?_of_later moved.world fresh) }
        cases result with
        | error b => exact ⟨found, kept⟩
        | ok h =>
          -- what was found is what is remembered from now on
          refine ⟨found, { kept with remembered := fun h' fresh => ?_ }⟩
          rw [← Health.Cache.eq_of_fresh?_record fresh]
          exact found.symm
  have read := answered _ rfl
  unfold isServing
  rw [Act.on_bind]
  cases ran : Act.on (status w) s with
  | mk result s' =>
    rw [ran] at read
    obtain ⟨rfl, kept⟩ := read
    cases result <;> exact ⟨rfl, kept⟩

end Client
end Courier
