import Courier.Proofs.Client.Departures
/-!
Calls and what departs for them.  A dispatch makes a call of its request each time it prepares one of its
stages; everything that it hands to the network, by either transport and however often, is one of these
calls.
-/
namespace Courier

/-- What is handed over for a call: its message beside a deadline, or its submission. -/
inductive Departure.IsFor (c : Call) : Departure → Prop where
  | carried {limit : Nat} {g : Tunnel.Carriage} {d : Tunnel.Delivery} (written : c.carriage? limit = some g) :
      IsFor c (.carried g d)
  | submitted {d : Http.Delivery} : IsFor c (.submitted c.submission d)

theorem Call.carriage?_message {c : Call} {limit : Nat} {g : Tunnel.Carriage}
    (written : c.carriage? limit = some g) : g.message = c.message := by
  obtain ⟨_, _, rfl⟩ := Option.map_eq_some_iff.mp written
  rfl

namespace Client

variable {σ : Type} (w : Surroundings σ) (context : Context) (r : Request)

/-- At some point the client makes this call of the request. -/
def Makes (c : Call) : Prop := ∃ s s', Prepared w context r s (.ok c) s'

variable {w context r}

theorem Makes.request {c : Call} (h : Makes w context r c) : c.request = r := by
  obtain ⟨s, s', ready⟩ := h
  exact (ready.request w).1

/-- The call's endpoint is what resolving a service gave. -/
theorem Makes.found {c : Call} (h : Makes w context r c) :
    ∃ d x, (w.resolve d x).1 = .ok c.endpoint := by
  obtain ⟨s, s', ready⟩ := h
  cases ready with
  | ready opened valid found => exact ⟨_, _, congrArg Prod.fst found⟩

variable (w context r)

/-- Between two worlds nothing departed but calls made of this request. -/
def Departs (x y : Watched σ) : Prop :=
  ∃ sent, y.2 = x.2 ++ sent ∧ ∀ d ∈ sent, ∃ c, Makes w.watched context r c ∧ d.IsFor c

/-- The same of the worlds of two sessions. -/
def Sends (s s' : Session (Watched σ)) : Prop := Departs w context r s.world s'.world

variable {w context r}

theorem Departs.still {x y : Watched σ} (same : y.2 = x.2) : Departs w context r x y :=
  ⟨[], by rw [same, List.append_nil], nofun⟩

theorem Departs.one {x y : Watched σ} {d : Departure} {c : Call} (made : Makes w.watched context r c)
    (its : d.IsFor c) (record : y.2 = x.2 ++ [d]) : Departs w context r x y :=
  ⟨[d], record, fun _ member => ⟨c, made, List.mem_singleton.mp member ▸ its⟩⟩

theorem Departs.trans {x y z : Watched σ} (h : Departs w context r x y) (h' : Departs w context r y z) :
    Departs w context r x z := by
  obtain ⟨sent, record, each⟩ := h
  obtain ⟨more, record', each'⟩ := h'
  refine ⟨sent ++ more, by rw [record', record, List.append_assoc], fun d member => ?_⟩
  rcases List.mem_append.mp member with member | member
  · exact each d member
  · exact each' d member

theorem sendTunnel_sends {c : Call} (made : Makes w.watched context r c) :
    Act.Within (Sends w context r) (sendTunnel w.watched c) := by
  intro s
  rw [sendTunnel_on]
  split
  · split
    · exact Departs.still rfl
    · next written => exact Departs.one made (.carried written) rfl
  · exact Departs.still rfl

theorem sendHttp_sends {c : Call} (made : Makes w.watched context r c) :
    Act.Within (Sends w context r) (sendHttp w.watched c) := by
  intro s
  rw [sendHttp_on]
  split
  · exact Departs.still rfl
  · exact Departs.one made .submitted rfl

theorem attempts_sends (t : Transport) (policy : RetryPolicy) {c : Call}
    (made : Makes w.watched context r c) :
    Act.Within (Sends w context r) (attempts w.watched t policy c) := by
  cases t with
  | tunnel => exact sendTunnel_sends made
  | http =>
    have joined : ∀ a b c : Session (Watched σ), Sends w context r a b → Sends w context r b c →
        Sends w context r a c := fun _ _ _ h h' => h.trans h'
    exact retryFrom_within joined (fun _ => sendHttp_sends made) _ 1

theorem send_sends (t : Transport) :
    Act.Within (Sends w context r) (send w.watched t context r) := by
  intro s
  obtain ⟨f, s', checks, sent⟩ | ⟨c, s', checks, sent⟩ := send_cases w.watched t context r s
  · rw [sent]
    exact Departs.still (prepared_record w checks)
  · have before : Sends w context r s s' := Departs.still (prepared_record w checks)
    rw [sent]
    exact before.trans (attempts_sends t s.client.retry ⟨s, s', checks⟩ s')

/-- Settling hands nothing over. -/
theorem dispatchOver_sends (t : Transport) :
    Act.Within (Sends w context r) (dispatchOver w.watched t context r) := by
  intro s
  have stage : Sends w context r s (Act.on (send w.watched t context r) s).2 := send_sends t s
  rw [dispatchOver_on]
  cases ran : Act.on (send w.watched t context r) s with
  | mk result s' =>
    rw [ran] at stage
    cases result <;> exact stage

/-- Whatever a dispatch hands over is for a call made of its request. -/
theorem dispatch_sends : Act.Within (Sends w context r) (dispatch w.watched context r) := by
  intro s
  have gate := (isServing_along w.watched_keeping s).world
  rw [dispatch_on]
  cases answered : Act.on (isServing w.watched) s with
  | mk result s₁ =>
    rw [answered] at gate
    have asked : Sends w context r s s₁ := Departs.still gate
    rcases result with b | served
    · exact asked
    · cases served with
      | false => exact asked.trans (dispatchOver_sends .http s₁)
      | true =>
        have stage : Sends w context r s₁ (Act.on (send w.watched .tunnel context r) s₁).2 :=
          send_sends .tunnel s₁
        dsimp only
        cases ran : Act.on (send w.watched .tunnel context r) s₁ with
        | mk outcome s₂ =>
          rw [ran] at stage
          rcases outcome with b | o
          · exact asked.trans stage
          · dsimp only
            split
            · exact (asked.trans stage).trans (dispatchOver_sends .http (fallenBack s₂))
            · exact asked.trans stage

end Client
end Courier
