import Courier.Relay
import Courier.Proofs.Client.Health
import Courier.Proofs.Json.RoundTrip
import Courier.Proofs.Registry.Sharing
/-!
Whether a relay is ready.  It should say so exactly when every service that it requires is serving, and name
those that are not.  The list of required services is read twice: with the blanks around a name taken off
where it says who may be called, and as it is written where the check goes through it.  An entry in which the
two differ is asked for under a name that may not be called, so it never counts as serving.
-/
namespace Courier

/-- The settings require the service: its name is in the list, but for blanks around it. -/
def Settings.Requires (s : Settings) (name : String) : Prop :=
  name ≠ "" ∧ ∃ entry ∈ s.requiredConnections, Text.trim entry = name

theorem Settings.Requires.declared {s : Settings} {name : String} (h : s.Requires name) :
    s.Declares name := by
  obtain ⟨entry, listed, spelled⟩ := h.2
  exact ⟨h.1, entry, List.mem_append_right _ listed, spelled⟩

namespace Relay

/-- An entry that is the name of a service as it stands. -/
def Spelled (entry : String) : Prop := entry ≠ "" ∧ Text.trim entry = entry

instance (entry : String) : Decidable (Spelled entry) := inferInstanceAs (Decidable (_ ∧ _))

instance (s : Settings) : Decidable (Client.Countable s) := inferInstanceAs (Decidable (_ ≤ _))

theorem Spelled.required {s : Settings} {entry : String} (h : Spelled entry)
    (listed : entry ∈ s.requiredConnections) : s.Requires entry :=
  ⟨h.1, entry, listed, h.2⟩

theorem Spelled.of_requires {s : Settings} {name : String} (h : s.Requires name) : Spelled name := by
  obtain ⟨some_name, entry, _, rfl⟩ := h
  exact ⟨some_name, Text.trim_trim entry⟩

/-- An entry of the list may be called exactly if it is spelled as a name. -/
theorem mem_allowed_iff {r : Registry} {entry : String} (listed : entry ∈ r.settings.requiredConnections) :
    entry ∈ r.allowed ↔ Spelled entry := by
  rw [Registry.allowed, Settings.mem_allowedServices]
  constructor
  · rintro ⟨some_name, other, _, rfl⟩
    exact ⟨some_name, Text.trim_trim other⟩
  · exact fun spelled => (spelled.required listed).declared

variable {σ : Type}

/-- For every required service, asking it comes to `health` from now on, and so does what its client
remembers. -/
structure Informed (w : Surroundings σ) (health : String → Except Breach HealthStatus) (s : Relay σ) :
    Prop where
  steady : ∀ name x, s.registry.settings.Requires name → w.now s.world ≤ w.now x →
    Client.finding w (Descriptor.ofSettings name s.registry.settings)
      s.registry.settings.healthProbeTimeout x = health name
  held : ∀ name n, s.registry.settings.Requires name → Table.get? name s.registry.clients = some n →
    ∃ c, s.registry.instances[n]? = some c ∧ Client.Countable s.registry.settings ∧
      c.Informed (Descriptor.ofSettings name s.registry.settings) s.registry.settings.healthProbeTimeout
        (health name) (w.now s.world)

/-- What asking for an entry comes to. -/
def answer (settings : Settings) (health : String → Except Breach HealthStatus) (entry : String) :
    Except Breach Bool :=
  if Spelled entry then
    if Client.Countable settings then (health entry).map (· == .serving) else .error .tooManyPermits
  else .ok false

/-- Running an act on a client that is there. -/
theorem withClient_on {α : Type} {name : String} {n : Nat} {c : Client} {registry : Registry} {s : Relay σ}
    (given : s.registry.get name = (.ok n, registry)) (there : registry.instances[n]? = some c)
    (act : Act σ α) :
    withClient name act s =
      (((Act.on act ⟨c, s.metrics, s.world⟩).1).mapError .breach,
        ⟨{ registry with instances := registry.instances.set n (Act.on act ⟨c, s.metrics, s.world⟩).2.client },
          (Act.on act ⟨c, s.metrics, s.world⟩).2.metrics, (Act.on act ⟨c, s.metrics, s.world⟩).2.world⟩) := by
  unfold withClient
  rw [given]
  simp only [Registry.run, there]
  rfl

variable {w : Surroundings σ} {health : String → Except Breach HealthStatus} {s : Relay σ}

/-- The client of a required service is there or is made now, unless too many calls would be let in. -/
theorem Informed.get (h : Informed w health s) {name : String}
    (required : s.registry.settings.Requires name) :
    (¬ Client.Countable s.registry.settings ∧
      s.registry.get name = (.error (.breach .tooManyPermits), s.registry)) ∨
    Client.Countable s.registry.settings ∧ ∃ n registry, s.registry.get name = (.ok n, registry) ∧
      registry.settings = s.registry.settings ∧ Table.get? name registry.clients = some n ∧
      Informed w health { s with registry := registry } := by
  have allowed : s.registry.allowed.contains name = true := by
    rw [List.contains_eq_mem, decide_eq_true_eq]
    exact Settings.mem_allowedServices.mpr required.declared
  unfold Registry.get
  rw [if_pos allowed]
  cases found : Table.get? name s.registry.clients with
  | some n =>
    obtain ⟨c, _, countable, _⟩ := h.held name n required found
    exact .inr ⟨countable, n, s.registry, rfl, rfl, found, h⟩
  | none =>
    by_cases countable : Client.Countable s.registry.settings
    · have made : Client.ofSettings name s.registry.settings = .ok _ := if_neg (Nat.not_lt.mpr countable)
      rw [made]
      refine .inr ⟨countable, _, _, rfl, rfl, Table.get?_insert_self .., ⟨h.steady, ?_⟩⟩
      intro other n needed there
      by_cases same : other = name
      · subst same
        obtain rfl := Option.some.inj ((Table.get?_insert_self ..).symm.trans there)
        exact ⟨_, List.getElem?_concat_length, countable, rfl, rfl, nofun, nofun⟩
      · obtain ⟨c, held, rest⟩ := h.held other n needed ((Table.get?_insert_of_ne same ..).symm.trans there)
        exact ⟨c, List.getElem?_append_left (List.getElem?_eq_some_iff.mp held).1 ▸ held, rest⟩
    · have overlarge : Client.ofSettings name s.registry.settings = .error .tooManyPermits :=
        if_pos (Nat.not_le.mp countable)
      rw [overlarge]
      exact .inl ⟨countable, rfl⟩

/-- A client that was asked takes its place again, still informed, at a later moment. -/
theorem Informed.replaced (h : Informed w health s) {name : String} {n : Nat}
    (required : s.registry.settings.Requires name) (found : Table.get? name s.registry.clients = some n)
    {c : Client} {metrics : Metrics} {world : σ} (moved : w.now s.world ≤ w.now world)
    (informed : c.Informed (Descriptor.ofSettings name s.registry.settings)
      s.registry.settings.healthProbeTimeout (health name) (w.now world)) :
    Informed w health
      ⟨{ s.registry with instances := s.registry.instances.set n c }, metrics, world⟩ := by
  obtain ⟨old, there, countable, before⟩ := h.held name n required found
  refine ⟨fun other x needed later => h.steady other x needed (Nat.le_trans moved later), ?_⟩
  intro other k needed position
  obtain ⟨c', there', _, before'⟩ := h.held other k needed position
  by_cases index : k = n
  · subst index
    -- one client serves one name
    obtain rfl := Option.some.inj (there.symm.trans there')
    obtain rfl : other = name :=
      congrArg Descriptor.name (before'.descriptor.symm.trans before.descriptor)
    exact ⟨c, List.getElem?_set_self (List.getElem?_eq_some_iff.mp there).1, countable, informed⟩
  · exact ⟨c', (List.getElem?_set_ne (Ne.symm index)).trans there', countable, before'.later moved⟩

/-- A step of the check. -/
structure Steps (w : Surroundings σ) (health : String → Except Breach HealthStatus) (s : Relay σ)
    (entry : String) (r : Except Breach Bool × Relay σ) : Prop where
  answered : r.1 = answer s.registry.settings health entry
  settings : r.2.registry.settings = s.registry.settings
  informed : Informed w health r.2

/-- Asking for an entry of the list tells how it is, and leaves the relay informed. -/
theorem Informed.steps (time : Client.Forward w) (h : Informed w health s) {entry : String}
    (listed : entry ∈ s.registry.settings.requiredConnections) :
    Steps w health s entry (isServing w entry s) := by
  by_cases spelled : Spelled entry
  · have required := spelled.required listed
    rcases h.get required with ⟨overlarge, refused⟩ | ⟨countable, n, registry, given, same, found, before⟩
    · have asked : isServing w entry s = (.error .tooManyPermits, s) := by
        simp only [isServing, withClient, refused]
      rw [asked]
      exact ⟨by rw [answer, if_pos spelled, if_neg overlarge], rfl, h⟩
    · have needed : registry.settings.Requires entry := same ▸ required
      obtain ⟨c, there, _, informed⟩ := before.held entry n needed found
      obtain ⟨said, after⟩ := Client.isServing_informed time (s := ⟨c, s.metrics, s.world⟩) informed
        fun x later => before.steady entry x needed later
      have moved := (Client.isServing_along time ⟨c, s.metrics, s.world⟩).world
      have means : answer s.registry.settings health entry = (health entry).map (· == .serving) := by
        rw [answer, if_pos spelled, if_pos countable]
      unfold isServing
      rw [withClient_on given there]
      cases ran : Act.on (Client.isServing w) ⟨c, s.metrics, s.world⟩ with
      | mk result s' =>
        rw [ran] at said after moved
        have left : Informed w health
            ⟨{ registry with instances := registry.instances.set n s'.client }, s'.metrics, s'.world⟩ :=
          before.replaced needed found moved after
        cases result with
        | ok serving => exact ⟨said.trans means.symm, same, left⟩
        | error b => exact ⟨said.trans means.symm, same, left⟩
  · have refused : s.registry.get entry = (.error (.refused (.unknownService entry)), s.registry) := by
      unfold Registry.get
      rw [if_neg]
      rw [List.contains_eq_mem, decide_eq_true_eq, mem_allowed_iff listed]
      exact spelled
    have asked : isServing w entry s = (.ok false, s) := by
      simp only [isServing, withClient, refused]
    rw [asked]
    exact ⟨by rw [answer, if_neg spelled], rfl, h⟩

/-- What asking for entries one after the other comes to: those that do not count as serving, or a breach
at one of them. -/
inductive Sorts (settings : Settings) (health : String → Except Breach HealthStatus) (entries : List String) :
    Except Breach (List String) → Prop where
  | told {unserved : List String} (each : ∀ e ∈ entries, ∃ serving, answer settings health e = .ok serving)
      (those : ∀ e, e ∈ unserved ↔ e ∈ entries ∧ answer settings health e = .ok false) :
      Sorts settings health entries (.ok unserved)
  | broken {e : String} {b b' : Breach} (listed : e ∈ entries) (breach : answer settings health e = .error b) :
      Sorts settings health entries (.error b')

/-- One more entry in front. -/
theorem Sorts.cons {settings : Settings} {entry : String} {rest : List String} {serving : Bool}
    {r : Except Breach (List String)} (answered : answer settings health entry = .ok serving)
    (others : Sorts settings health rest r) :
    Sorts settings health (entry :: rest) (r.map fun l => if serving then l else entry :: l) := by
  cases others with
  | broken listed breach => exact .broken (List.mem_cons_of_mem _ listed) breach
  | @told unserved each those =>
    refine .told (List.forall_mem_cons.mpr ⟨⟨serving, answered⟩, each⟩) fun e => ?_
    cases serving with
    | true =>
      change e ∈ unserved ↔ _
      rw [those, List.mem_cons]
      refine ⟨fun ⟨listed, unserved⟩ => ⟨.inr listed, unserved⟩, ?_⟩
      rintro ⟨rfl | listed, unserved⟩
      · cases answered.symm.trans unserved
      · exact ⟨listed, unserved⟩
    | false =>
      change e ∈ entry :: unserved ↔ _
      rw [List.mem_cons, List.mem_cons, those]
      constructor
      · rintro (rfl | ⟨listed, unserved⟩)
        · exact ⟨.inl rfl, answered⟩
        · exact ⟨.inr listed, unserved⟩
      · rintro ⟨rfl | listed, unserved⟩
        · exact .inl rfl
        · exact .inr ⟨listed, unserved⟩

/-- The check asks for every entry, unless a breach ends it. -/
theorem Informed.sorts (time : Client.Forward w) {entries : List String} (h : Informed w health s)
    (listed : ∀ e ∈ entries, e ∈ s.registry.settings.requiredConnections) :
    Sorts s.registry.settings health entries (unavailable w entries s).1 := by
  induction entries generalizing s with
  | nil => exact .told nofun fun e => by simp
  | cons entry rest ih =>
    obtain ⟨here, later⟩ := List.forall_mem_cons.mp listed
    have step := h.steps time here
    unfold unavailable
    cases asked : isServing w entry s with
    | mk result s' =>
      rw [asked] at step
      have others := ih step.informed (step.settings ▸ later)
      rw [step.settings] at others
      cases result with
      | error b => exact .broken (List.mem_cons_self ..) step.answered.symm
      | ok serving => exact others.cons step.answered.symm

/-- What a relay that requires these services should answer while their health is this: that it is ready,
if all of them are serving, and else which of them are not. -/
structure TellsTruth (settings : Settings) (health : String → Except Breach HealthStatus)
    (response : Http.Response) : Prop where
  ready_iff : response.status = .ok ↔ ∀ name, settings.Requires name → health name = .ok .serving
  unready : response.status ≠ .ok → response.status = .unavailable ∧ ∃ names,
    Json.parse? response.body =
      some (.obj [("status", .str "not_ready"), ("unavailable", Json.ofStrings names)]) ∧
    ∀ name, name ∈ names ↔ settings.Requires name ∧ health name ≠ .ok .serving

/-- The list in the answer can be read back. -/
theorem parse?_readiness {names : List String} (some_name : names ≠ []) :
    Json.parse? (readiness names).body =
      some (.obj [("status", .str "not_ready"), ("unavailable", Json.ofStrings names)]) := by
  have strings : ∀ x ∈ names.map Json.str, Json.Plain Json.IsInt (Json.nestingLimit - 2) x := by
    intro x member
    obtain ⟨name, _, rfl⟩ := List.mem_map.mp member
    exact .str name
  have ordered : Table.Ordered [("status", Json.str "not_ready"), ("unavailable", Json.ofStrings names)] :=
    List.pairwise_pair.mpr (show "status" < "unavailable" by decide)
  unfold readiness
  split
  · exact absurd rfl some_name
  · refine Json.parse?_bytes (.obj ordered fun f member => ?_)
    rcases List.mem_pair.mp member with rfl | rfl
    · exact .str "not_ready"
    · exact .arr strings

/-- The list in the answer is the list of names. -/
theorem unavailable_inj {names names' : List String}
    (same : Json.obj [("status", .str "not_ready"), ("unavailable", Json.ofStrings names)] =
      .obj [("status", .str "not_ready"), ("unavailable", Json.ofStrings names')]) : names = names' := by
  simp only [Json.obj.injEq, List.cons.injEq, Prod.mk.injEq, true_and, and_true, Json.ofStrings,
    Json.arr.injEq] at same
  exact List.map_injective_iff.mpr (fun _ _ => Json.str.inj) same

theorem readiness_ok_iff (names : List String) : (readiness names).status = .ok ↔ names = [] := by
  cases names with
  | nil => exact iff_of_true rfl rfl
  | cons name names =>
    have different : Http.Status.unavailable ≠ .ok := by decide
    exact iff_of_false different (List.cons_ne_nil name names)

/-- The entry can be asked for, and asking it comes to something. -/
structure Askable (settings : Settings) (health : String → Except Breach HealthStatus) (entry : String) :
    Prop where
  spelled : Spelled entry
  countable : Client.Countable settings
  known : ∃ h, health entry = .ok h

theorem Askable.answer_eq {settings : Settings} {entry : String} (h : Askable settings health entry) :
    answer settings health entry = (health entry).map (· == .serving) := by
  rw [answer, if_pos h.spelled, if_pos h.countable]

/-- A spelled entry that asking comes to something for is askable. -/
theorem Askable.of_answer {settings : Settings} {entry : String} {serving : Bool} (spelled : Spelled entry)
    (answered : answer settings health entry = .ok serving) : Askable settings health entry := by
  rw [answer, if_pos spelled] at answered
  by_cases countable : Client.Countable settings
  · rw [if_pos countable] at answered
    cases known : health entry with
    | ok h => exact ⟨spelled, countable, h, known⟩
    | error b =>
      rw [known] at answered
      cases answered
  · rw [if_neg countable] at answered
    cases answered

/-- With every entry askable, the entries that do not count as serving are the services that are not. -/
theorem Sorts.mem_iff {settings : Settings} {unserved : List String}
    (sorted : Sorts settings health settings.requiredConnections (.ok unserved))
    (askable : ∀ e ∈ settings.requiredConnections, Askable settings health e) (name : String) :
    name ∈ unserved ↔ settings.Requires name ∧ health name ≠ .ok .serving := by
  obtain ⟨_, those⟩ := sorted
  have unserving : ∀ e ∈ settings.requiredConnections,
      (answer settings health e = .ok false ↔ health e ≠ .ok .serving) := by
    intro e listed
    obtain ⟨h, known⟩ := (askable e listed).known
    rw [(askable e listed).answer_eq, known]
    cases h <;> decide
  rw [those]
  constructor
  · rintro ⟨listed, unserved⟩
    exact ⟨(askable name listed).spelled.required listed, (unserving name listed).mp unserved⟩
  · rintro ⟨⟨_, entry, listed, rfl⟩, unserved⟩
    rw [(askable entry listed).spelled.2] at unserved ⊢
    exact ⟨listed, (unserving entry listed).mpr unserved⟩

/-- With every entry askable, the answer is the truth. -/
theorem Sorts.tells_truth {settings : Settings} {unserved : List String}
    (sorted : Sorts settings health settings.requiredConnections (.ok unserved))
    (askable : ∀ e ∈ settings.requiredConnections, Askable settings health e) :
    TellsTruth settings health (readiness unserved) := by
  have unserving := sorted.mem_iff askable
  refine ⟨?_, fun unready => ?_⟩
  · rw [readiness_ok_iff, List.eq_nil_iff_forall_not_mem]
    refine forall_congr' fun name => ?_
    rw [unserving, not_and, not_not]
  · have some_name : unserved ≠ [] := fun none => unready ((readiness_ok_iff _).mpr none)
    refine ⟨?_, unserved, parse?_readiness some_name, unserving⟩
    cases unserved with
    | nil => exact absurd rfl some_name
    | cons name names => rfl

/-- Only then: an entry that is not spelled as a name is in the answer, and no service is called so. -/
theorem Sorts.askable {settings : Settings} {unserved : List String}
    (sorted : Sorts settings health settings.requiredConnections (.ok unserved))
    (truth : TellsTruth settings health (readiness unserved)) :
    ∀ e ∈ settings.requiredConnections, Askable settings health e := by
  obtain ⟨each, those⟩ := sorted
  intro entry listed
  obtain ⟨serving, answered⟩ := each entry listed
  by_cases spelled : Spelled entry
  · exact .of_answer spelled answered
  · have named : entry ∈ unserved := (those entry).mpr ⟨listed, by rw [answer, if_neg spelled]⟩
    have some_name : unserved ≠ [] := List.ne_nil_of_mem named
    obtain ⟨_, names, body, exactly⟩ := truth.unready fun ok => some_name ((readiness_ok_iff _).mp ok)
    rw [parse?_readiness some_name] at body
    have same : unserved = names := unavailable_inj (Option.some.inj body)
    exact absurd (Spelled.of_requires ((exactly entry).mp (same ▸ named)).1) spelled

theorem ready_ending (w : Surroundings σ) (r : Inbound) (s : Relay σ) :
    (ready w r s).1 = match (unavailable w s.registry.settings.requiredConnections s).1 with
      | .ok names => .served { response := readiness names }
      | .error _ => .panicked := by
  unfold ready
  cases unavailable w s.registry.settings.requiredConnections s with
  | mk result s' => cases result <;> rfl

/-- The readiness check tells the truth exactly when every entry of the list is spelled as a name, calls can
be counted, and asking each service comes to something. -/
theorem ready_tells_truth_iff (time : Client.Forward w) (informed : Informed w health s) (r : Inbound) :
    (∃ v, (ready w r s).1 = .served v ∧ TellsTruth s.registry.settings health v.response) ↔
      ∀ entry ∈ s.registry.settings.requiredConnections, Askable s.registry.settings health entry := by
  have sorted := informed.sorts time fun e listed => listed
  rw [ready_ending]
  generalize (unavailable w s.registry.settings.requiredConnections s).1 = result at sorted ⊢
  cases result with
  | error b =>
    refine iff_of_false (fun ⟨v, served, _⟩ => nomatch served) fun askable => ?_
    cases sorted with
    | @broken e _ _ listed breach =>
      obtain ⟨h, known⟩ := (askable e listed).known
      rw [(askable e listed).answer_eq, known] at breach
      cases breach
  | ok unserved =>
    constructor
    · rintro ⟨_, ⟨⟩, truth⟩
      exact sorted.askable truth
    · exact fun askable => ⟨_, rfl, sorted.tells_truth askable⟩

/-- Services are where their names say, and answer: `auth` that it is serving, others that they are not. -/
def attended : Surroundings Unit :=
  { Surroundings.still with
    resolve := fun d x => (d.resolve, x)
    probe := none
    check := fun address _ x => (.answered (if address = "http://auth:8081" then 1 else 2), x) }

def attendance (name : String) : Except Breach HealthStatus :=
  .ok (if name = "auth" then .serving else .notServing)

/-- A relay that requires some services and has asked none of them yet. -/
def requiring (services : List String) : Relay Unit :=
  { registry := { settings := { requiredConnections := services } }, world := () }

theorem forward_of_unit (w : Surroundings Unit) : Client.Forward w where
  refl _ := Nat.le_refl _
  trans := Nat.le_trans
  resolve _ _ := Nat.le_refl _
  probe _ _ _ _ := Nat.le_refl _
  check _ _ _ := Nat.le_refl _

/-- A relay that has asked nobody knows nothing wrong. -/
theorem informed_requiring {w : Surroundings Unit} {services : List String}
    (steady : ∀ name, (requiring services).registry.settings.Requires name →
      Client.finding w (Descriptor.ofSettings name (requiring services).registry.settings)
        (requiring services).registry.settings.healthProbeTimeout () = health name) :
    Informed w health (requiring services) where
  steady name _ required _ := steady name required
  held _ _ _ := nofun

theorem attended_informed : Informed attended attendance (requiring ["auth", "mail", "auth"]) := by
  refine informed_requiring fun name ⟨_, entry, listed, spelled⟩ => ?_
  subst spelled
  rcases List.mem_cons.mp listed with rfl | listed
  · decide +kernel
  · rcases List.mem_pair.mp listed with rfl | rfl <;> decide +kernel

def asking : Inbound := { method := "GET", uri := ⟨none, none, "/ready", none⟩, headers := [], body := [] }

theorem attended_tells_truth :
    ∃ v, (ready attended asking (requiring ["auth", "mail", "auth"])).1 = .served v ∧
      TellsTruth (requiring ["auth", "mail", "auth"]).registry.settings attendance v.response := by
  refine (ready_tells_truth_iff (forward_of_unit attended) attended_informed asking).mpr fun entry listed => ?_
  have spelled : ∀ e ∈ ["auth", "mail", "auth"], Spelled e := by decide
  exact ⟨spelled entry listed, by decide, _, rfl⟩

/-- A service that is serving is named among those that are not, when blanks stand around its name. -/
theorem padded_name_untrue :
    ¬ ∀ (w : Surroundings Unit) (health : String → Except Breach HealthStatus) (s : Relay Unit) (r : Inbound),
      Client.Forward w → Informed w health s →
        ∃ v, (ready w r s).1 = .served v ∧ TellsTruth s.registry.settings health v.response := by
  intro always
  have informed : Informed Surroundings.still (fun _ => .ok .serving) (requiring [" auth "]) :=
    informed_requiring fun _ _ => rfl
  obtain ⟨v, served, truth⟩ := always Surroundings.still _ _ asking (forward_of_unit _) informed
  have walked : (unavailable Surroundings.still (requiring [" auth "]).registry.settings.requiredConnections
      (requiring [" auth "])).1 = .ok [" auth "] := by decide +kernel
  rw [ready_ending, walked] at served
  cases served
  cases truth.ready_iff.mpr fun _ _ => rfl

end Relay
end Courier
