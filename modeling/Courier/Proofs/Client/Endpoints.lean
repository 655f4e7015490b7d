import Courier.Proofs.Client.Selection
/-!
Where the attempts of a dispatch go.  `Surroundings.located` is the same surroundings with a note of the
endpoint that was found last, and a record of every attempt with the note in force.  A stage resolves once,
so all its attempts go to one endpoint, repetitions included.  A dispatch that falls back has two stages,
and the second resolves anew: it goes elsewhere exactly when the resolver has changed its answer meanwhile.
-/
namespace Courier

/-- A departure, with the endpoint that was found last before it. -/
structure Attempt where
  endpoint : Option Endpoint
  departure : Departure

/-- What departs is what some call for this endpoint leaves as. -/
inductive Departure.MadeFor (e : Endpoint) : Departure → Prop where
  | carried {c : Call} {limit : Nat} {g : Tunnel.Carriage} (d : Tunnel.Delivery) (of : c.endpoint = e)
      (written : c.carriage? limit = some g) : MadeFor e (.carried g d)
  | submitted {c : Call} (d : Http.Delivery) (of : c.endpoint = e) : MadeFor e (.submitted c.submission d)

structure Attempt.Uses (a : Attempt) (e : Endpoint) : Prop where
  found : a.endpoint = some e
  made : a.departure.MadeFor e

theorem Attempt.Uses.unique {a : Attempt} {e f : Endpoint} (h : a.Uses e) (h' : a.Uses f) : e = f :=
  Option.some.inj (h.found.symm.trans h'.found)

/-- A world, with the endpoint found last and all attempts made, latest last. -/
structure Located (σ : Type) where
  world : σ
  found : Option Endpoint := none
  attempts : List Attempt := []

def Surroundings.located {σ : Type} (w : Surroundings σ) : Surroundings (Located σ) where
  now x := w.now x.world
  clock x := w.clock x.world
  span x := w.span x.world
  resolve d x :=
    let (answer, y) := w.resolve d x.world
    (answer, { x with world := y, found := answer.toOption })
  probe := w.probe.map fun p => fun name x =>
    let (status, y) := p name x.world
    (status, { x with world := y })
  check address limit x :=
    let (ended, y) := w.check address limit x.world
    (ended, { x with world := y })
  carry g x :=
    let (delivery, y) := w.carry g x.world
    (delivery, { x with world := y, attempts := x.attempts ++ [⟨x.found, .carried g delivery⟩] })
  submit sub x :=
    let (delivery, y) := w.submit sub x.world
    (delivery, { x with world := y, attempts := x.attempts ++ [⟨x.found, .submitted sub delivery⟩] })
  word := w.word

/-- Short of sending, nothing is attempted. -/
theorem Surroundings.located_keeping {σ : Type} (w : Surroundings σ) :
    Client.Keeping w.located fun x y => y.attempts = x.attempts where
  refl x := rfl
  trans h h' := h'.trans h
  resolve d x := rfl
  probe p scripted n x := by
    obtain ⟨q, _, rfl⟩ := Option.map_eq_some_iff.mp scripted
    rfl
  check a d x := rfl

namespace Client

variable {σ : Type} (w : Surroundings σ)

/-- All these attempts are for one endpoint. -/
def OneEndpoint (made : List Attempt) : Prop := ∃ e, ∀ a ∈ made, a.Uses e

theorem OneEndpoint.nil : OneEndpoint [] := ⟨⟨"", "", "", 0, 0, ""⟩, nofun⟩

theorem OneEndpoint.eq {made : List Attempt} {e f : Endpoint} (one : OneEndpoint made) {a b : Attempt}
    (first : a ∈ made) (second : b ∈ made) (uses : a.Uses e) (uses' : b.Uses f) : e = f := by
  obtain ⟨g, each⟩ := one
  exact (uses.unique (each a first)).trans ((each b second).unique uses')

/-- These attempts were made between the sessions. -/
def Made (made : List Attempt) (s s' : Session (Located σ)) : Prop :=
  s'.world.attempts = s.world.attempts ++ made

theorem Made.trans {made made' : List Attempt} {a b c : Session (Located σ)} (h : Made made a b)
    (h' : Made made' b c) : Made (made ++ made') a c := by
  unfold Made at h h' ⊢
  rw [h', h, List.append_assoc]

/-- Between the sessions something was attempted, and all of it for the endpoint in force. -/
def Tried (e : Endpoint) (s s' : Session (Located σ)) : Prop :=
  s.world.found = some e → s'.world.found = some e ∧
    ∃ made, made ≠ [] ∧ Made made s s' ∧ ∀ a ∈ made, a.Uses e

theorem Tried.trans (e : Endpoint) (a b c : Session (Located σ)) (h : Tried e a b) (h' : Tried e b c) :
    Tried e a c := by
  intro found
  obtain ⟨found, made, some_made, record, each⟩ := h found
  obtain ⟨found, more, _, record', each'⟩ := h' found
  refine ⟨found, made ++ more, by simp [some_made], record.trans record', fun x member => ?_⟩
  rcases List.mem_append.mp member with member | member
  · exact each x member
  · exact each' x member

theorem Tried.one {e : Endpoint} {a : Attempt} {s s' : Session (Located σ)} (record : Made [a] s s')
    (keeps : s'.world.found = s.world.found) (noted : a.endpoint = s.world.found)
    (made : a.departure.MadeFor e) : Tried e s s' := by
  intro found
  refine ⟨keeps.trans found, [a], by simp, record, fun x member => ?_⟩
  obtain rfl := List.mem_singleton.mp member
  exact ⟨noted.trans found, made⟩

/-! ### Stages -/

variable {w} {context : Context} {r : Request} {s s' : Session (Located σ)}

theorem Prepared.unattempted {result : Except Fault Call} (h : Prepared w.located context r s result s') :
    Made [] s s' := by
  have kept := (h.staged w.located_keeping.toResolving).world
  unfold Made
  rw [kept, List.append_nil]

/-- A call that is ready is for the endpoint in force. -/
theorem Prepared.found {c : Call} (h : Prepared w.located context r s (.ok c) s') :
    s'.world.found = some c.endpoint := by
  cases h with
  | ready opened valid found =>
    have noted := congrArg (fun answer => answer.2.found) found
    have answer := congrArg Prod.fst found
    simp only [Surroundings.located] at noted answer
    rw [answer] at noted
    exact noted.symm

theorem sendHttp_tried {c : Call} (fit : unfit? w.located c = none) :
    Act.Within (Tried c.endpoint) (sendHttp w.located c) := by
  intro s
  rw [sendHttp_on, fit]
  exact .one rfl rfl rfl (.submitted _ rfl)

/-- Every repetition goes where the first attempt went. -/
theorem attempts_tried {c : Call} (fit : unfit? w.located c = none) (policy : RetryPolicy) :
    Act.Within (Tried c.endpoint) (attempts w.located .http policy c) :=
  retryFrom_within (Tried.trans c.endpoint) (fun _ => sendHttp_tried fit) _ 1

theorem attempts_unfit {c : Call} {f : Fault} (unfit : unfit? w.located c = some f) (policy : RetryPolicy)
    (s : Session (Located σ)) : Made [] s (Act.on (attempts w.located .http policy c) s).2 := by
  have each : Act.Within (Made []) (sendHttp w.located c) := by
    intro s
    rw [sendHttp_on, unfit]
    exact (List.append_nil _).symm
  exact retryFrom_within (fun _ _ _ h h' => h.trans h') (fun _ => each) _ 1 s

/-- What a stage attempts: nothing, or all of it for the endpoint of the call that its checks made ready. -/
inductive Aimed (w : Surroundings σ) (context : Context) (r : Request) (s s' : Session (Located σ)) :
    List Attempt → Prop where
  | nothing (record : Made [] s s') : Aimed w context r s s' []
  | every {made : List Attempt} {c : Call} {a : Session (Located σ)}
      (ready : Prepared w.located context r s (.ok c) a) (some_made : made ≠ []) (record : Made made s s')
      (each : ∀ x ∈ made, x.Uses c.endpoint) : Aimed w context r s s' made

theorem Aimed.record {made : List Attempt} (h : Aimed w context r s s' made) : Made made s s' := by
  cases h <;> assumption

theorem Aimed.one {made : List Attempt} (h : Aimed w context r s s' made) : OneEndpoint made := by
  cases h with
  | nothing record => exact .nil
  | every ready some_made record each => exact ⟨_, each⟩

theorem Tried.aimed {c : Call} {a : Session (Located σ)} (ready : Prepared w.located context r s (.ok c) a)
    (h : Tried c.endpoint a s') : ∃ made, made ≠ [] ∧ Aimed w context r s s' made := by
  obtain ⟨_, made, some_made, record, each⟩ := h ready.found
  exact ⟨made, some_made, .every ready some_made (ready.unattempted.trans record) each⟩

variable (w context r) in
/-- Over HTTP something is attempted exactly if a call is made ready that can be submitted. -/
theorem send_http_aimed (s : Session (Located σ)) : ∃ made,
    Aimed w context r s (Act.on (send w.located .http context r) s).2 made ∧
      (made ≠ [] ↔ ∃ sub a, Submits w.located context r s sub a) := by
  obtain ⟨f, a, checks, sent⟩ | ⟨c, a, checks, sent⟩ := send_cases w.located .http context r s
  · rw [sent]
    refine ⟨[], .nothing checks.unattempted, ⟨nofun, ?_⟩⟩
    rintro ⟨_, _, ready, fit⟩
    cases (checks.unique w.located ready).1
  · rw [sent]
    cases unfit : unfit? w.located c with
    | none =>
      obtain ⟨made, some_made, aimed⟩ := Tried.aimed checks (attempts_tried unfit s.client.retry a)
      exact ⟨made, aimed, fun _ => ⟨_, _, checks, unfit⟩, fun _ => some_made⟩
    | some f =>
      have record := checks.unattempted.trans (attempts_unfit unfit s.client.retry a)
      refine ⟨[], .nothing record, ⟨nofun, ?_⟩⟩
      rintro ⟨_, _, ready, fit⟩
      cases (checks.unique w.located ready).1
      rw [unfit] at fit
      cases fit

variable (w context r) in
/-- Over the tunnel something is attempted at least if the service cannot have seen the request. -/
theorem send_tunnel_aimed (s : Session (Located σ)) : ∃ made,
    Aimed w context r s (Act.on (send w.located .tunnel context r) s).2 made ∧
      ∀ o, (Act.on (send w.located .tunnel context r) s).1 = .ok o → Unseen o → made ≠ [] := by
  obtain ⟨f, a, checks, sent⟩ | ⟨c, a, checks, sent⟩ := send_cases w.located .tunnel context r s
  · rw [sent]
    refine ⟨[], .nothing checks.unattempted, fun o same unseen => ?_⟩
    cases same
    exact absurd unseen (checks.not_unseen w.located)
  · rw [sent, attempts, sendTunnel_on]
    split
    · split
      · refine ⟨[], .nothing checks.unattempted, fun o same => ?_⟩
        cases same
      · next written =>
        have tried : Tried c.endpoint a { connected a c.endpoint.tunnelAddress with
            world := (w.located.carry _ a.world).2 } := .one rfl rfl rfl (.carried _ rfl written)
        obtain ⟨made, some_made, aimed⟩ := Tried.aimed checks tried
        exact ⟨made, aimed, fun _ _ _ => some_made⟩
    · refine ⟨[], .nothing checks.unattempted, fun o same unseen => ?_⟩
      cases same
      cases unseen

/-! ### Dispatches -/

variable (w context r) in
/-- The dispatch falls back, and by then the service is found elsewhere and can be reached there. -/
inductive Moves (s : Session (Located σ)) : Prop where
  | intro {s₁ s₂ s₃ s₄ : Session (Located σ)} {c c' : Call} {o : Outcome}
      (serving : Act.on (isServing w.located) s = (.ok true, s₁))
      (first : Prepared w.located context r s₁ (.ok c) s₂)
      (heard : Act.on (send w.located .tunnel context r) s₁ = (.ok o, s₃)) (unseen : Unseen o)
      (second : Prepared w.located context r (fallenBack s₃) (.ok c') s₄)
      (fit : unfit? w.located c' = none) (elsewhere : c'.endpoint ≠ c.endpoint)

/-- Settling attempts nothing more. -/
theorem dispatchOver_made (t : Transport) {made : List Attempt} {s : Session (Located σ)}
    (stage : Made made s (Act.on (send w.located t context r) s).2) :
    Made made s (Act.on (dispatchOver w.located t context r) s).2 := by
  rw [dispatchOver_on]
  cases ran : Act.on (send w.located t context r) s with
  | mk result s' =>
    rw [ran] at stage
    cases result <;> exact stage

variable (w context r) in
theorem dispatchOver_one (t : Transport) (s : Session (Located σ)) : ∃ made,
    Made made s (Act.on (dispatchOver w.located t context r) s).2 ∧ OneEndpoint made := by
  cases t with
  | http =>
    obtain ⟨made, aimed, _⟩ := send_http_aimed w context r s
    exact ⟨made, dispatchOver_made .http aimed.record, aimed.one⟩
  | tunnel =>
    obtain ⟨made, aimed, _⟩ := send_tunnel_aimed w context r s
    exact ⟨made, dispatchOver_made .tunnel aimed.record, aimed.one⟩

theorem gate_unattempted {served : Except Breach Bool} {s₁ : Session (Located σ)}
    (answered : Act.on (isServing w.located) s = (served, s₁)) : Made [] s s₁ := by
  have gate := (isServing_along w.located_keeping s).world
  rw [answered] at gate
  unfold Made
  rw [gate, List.append_nil]

/-- Two stages have one endpoint unless the second finds the service elsewhere and reaches it there. -/
theorem fallback_one_iff {s₁ s₂ s₃ : Session (Located σ)} {o : Outcome} {made more : List Attempt}
    (serving : Act.on (isServing w.located) s = (.ok true, s₁))
    (heard : Act.on (send w.located .tunnel context r) s₁ = (.ok o, s₂)) (unseen : Unseen o)
    (first : Aimed w context r s₁ s₂ made) (some_made : made ≠ [])
    (second : Aimed w context r (fallenBack s₂) s₃ more)
    (submits : more ≠ [] ↔ ∃ sub a, Submits w.located context r (fallenBack s₂) sub a) :
    OneEndpoint (made ++ more) ↔ ¬ Moves w context r s := by
  cases first with
  | nothing record => exact absurd rfl some_made
  | @every _ c a ready _ record each =>
    obtain ⟨x, here⟩ := List.exists_mem_of_ne_nil made some_made
    constructor
    · rintro one ⟨serving', ready', heard', _, again, fit, elsewhere⟩
      rw [serving] at serving'
      cases serving'
      rw [heard] at heard'
      cases heard'
      cases (ready.unique w.located ready').1
      cases second with
      | nothing _ => exact submits.mpr ⟨_, _, again, fit⟩ rfl
      | every again' some_more _ each' =>
        cases (again'.unique w.located again).1
        obtain ⟨y, there⟩ := List.exists_mem_of_ne_nil more some_more
        apply elsewhere
        exact one.eq (List.mem_append_right _ there) (List.mem_append_left _ here) (each' y there)
          (each x here)
    · intro stays
      refine ⟨c.endpoint, fun y member => ?_⟩
      rcases List.mem_append.mp member with member | member
      · exact each y member
      · cases second with
        | nothing _ => cases member
        | @every _ c' _ again some_more _ each' =>
          obtain ⟨_, _, again', fit⟩ := submits.mp some_more
          cases (again.unique w.located again').1
          have same : c'.endpoint = c.endpoint := by
            by_contra elsewhere
            exact stays ⟨serving, ready, heard, unseen, again, fit, elsewhere⟩
          rw [← same]
          exact each' y member

/-- The attempts of a run from `s`: each is for some endpoint, and all are for one unless the dispatch
moves. -/
def Kept (w : Surroundings σ) (context : Context) (r : Request) (s s' : Session (Located σ)) : Prop :=
  ∃ made, Made made s s' ∧ (∀ a ∈ made, ∃ e, a.Uses e) ∧ (OneEndpoint made ↔ ¬ Moves w context r s)

theorem Kept.alone {made : List Attempt} (record : Made made s s') (one : OneEndpoint made)
    (stays : ¬ Moves w context r s) : Kept w context r s s' :=
  ⟨made, record, fun a member => one.imp fun _ each => each a member, fun _ => stays, fun _ => one⟩

/-- A dispatch of a serving service, from the outcome of its first stage on. -/
theorem dispatch_kept_serving {s₁ : Session (Located σ)}
    (answered : Act.on (isServing w.located) s = (.ok true, s₁)) :
    Kept w context r s (Act.on (dispatch w.located context r) s).2 := by
  have gate := gate_unattempted answered
  obtain ⟨made, first, sure⟩ := send_tunnel_aimed w context r s₁
  rw [dispatch_on, answered]
  dsimp only
  cases heard : Act.on (send w.located .tunnel context r) s₁ with
  | mk result s₂ =>
    rw [heard] at first sure
    cases result with
    | error b =>
      refine .alone (gate.trans first.record) first.one ?_
      rintro ⟨serving, _, stopped, _, _, _, _⟩
      cases answered.symm.trans serving
      cases heard.symm.trans stopped
    | ok o =>
      dsimp only
      by_cases unseen : Unseen o
      · obtain ⟨more, second, submits⟩ := send_http_aimed w context r (fallenBack s₂)
        have later : Made more s₂ (Act.on (dispatchOver w.located .http context r) (fallenBack s₂)).2 :=
          dispatchOver_made .http second.record
        have record := (gate.trans first.record).trans later
        rw [if_pos ((fallsBack_iff o).mpr unseen)]
        refine ⟨made ++ more, record, fun a member => ?_,
          fallback_one_iff answered heard unseen first (sure o rfl unseen) second submits⟩
        rcases List.mem_append.mp member with member | member
        · exact first.one.imp fun _ each => each a member
        · exact second.one.imp fun _ each => each a member
      · rw [if_neg fun back => unseen ((fallsBack_iff o).mp back)]
        refine .alone (gate.trans first.record) first.one ?_
        rintro ⟨serving, _, heard', unseen', _, _, _⟩
        cases answered.symm.trans serving
        cases heard.symm.trans heard'
        exact unseen unseen'

/-- For every resolver, whatever it answers from call to call, and every network: all attempts of a dispatch
are for one endpoint unless it falls back and finds the service elsewhere.  Over one transport they always
are. -/
theorem dispatch_keeps_endpoint_iff (w : Surroundings σ) (context : Context) (r : Request)
    (s : Session (Located σ)) :
    Kept w context r s (Act.on (dispatch w.located context r) s).2 ∧
    ∀ t, ∃ made, Made made s (Act.on (dispatchOver w.located t context r) s).2 ∧ OneEndpoint made := by
  refine ⟨?_, fun t => dispatchOver_one w context r t s⟩
  cases answered : Act.on (isServing w.located) s with
  | mk result s₁ =>
    have gate := gate_unattempted answered
    have other (unserved : result ≠ .ok true) : ¬ Moves w context r s := by
      rintro ⟨serving, _, _, _, _, _, _⟩
      exact unserved (congrArg Prod.fst (answered.symm.trans serving))
    rcases result with b | served
    · rw [dispatch_on, answered]
      exact .alone gate .nil (other nofun)
    · cases served with
      | true => exact dispatch_kept_serving answered
      | false =>
        obtain ⟨made, record, one⟩ := dispatchOver_one w context r .http s₁
        rw [dispatch_on, answered]
        exact .alone (gate.trans record) one (other nofun)

end Client

/-! ### An entry that expires during the first stage -/

/-- A service that moves after half a second, found by a resolver with a memory.  It is serving, and an
answer of its tunnel takes a second and has no status. -/
def Surroundings.moving : Surroundings Resolver where
  now x := x.now
  clock _ := 0
  span _ := none
  resolve d x :=
    let host := if x.now < 500000000 then "here" else "there"
    let (y, answer) := x.resolve (fun d => .ok ⟨d.name, "http", host, 8000, 9000, "v1"⟩) d
    (answer, y)
  probe := some fun _ x => (.serving, x)
  check _ _ x := (.timedOut, x)
  carry _ x := (.answered ⟨[], 0⟩, (x.step (.pass (.ofSeconds 1))).1)
  submit _ x := (.timedOut, x)
  word _ := ""

namespace Client

/-- The resolver keeps what it finds for a second. -/
def forgetful : Session (Located Resolver) where
  client := .signedIn
  world := { world := { ttl := .ofSeconds 1 } }

theorem expired_entry_moves_dispatch :
    ¬ ∀ (w : Surroundings Resolver) (context : Context) (r : Request) (s : Session (Located Resolver)),
      ∃ made, Made made s (Act.on (dispatch w.located context r) s).2 ∧ OneEndpoint made := by
  intro all
  obtain ⟨made, record, e, each⟩ := all .moving {} { method := "POST", path := "echo" } forgetful
  have found : (Act.on (dispatch Surroundings.moving.located {} { method := "POST", path := "echo" })
      forgetful).2.world.attempts.map (fun a => a.endpoint.map Endpoint.host) =
        [some "here", some "there"] := by
    decide +kernel
  have nothing : forgetful.world.attempts = [] := rfl
  have same : ∀ host ∈ made.map fun a => a.endpoint.map Endpoint.host, host = some e.host := by
    intro host member
    obtain ⟨a, attempted, rfl⟩ := List.mem_map.mp member
    rw [(each a attempted).found, Option.map_some]
  rw [record, nothing, List.nil_append] at found
  rw [found] at same
  have here : some "here" = some e.host := same _ (by simp)
  have there : some "there" = some e.host := same _ (by simp)
  exact absurd (here.trans there.symm) (by decide)

end Client
end Courier
