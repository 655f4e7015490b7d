import Courier.Service.Layers
import Courier.Service.Route
/-!
What a router writes into the access log.  Handlers write nothing there.  Behind the library's layers, in
whatever order they stand, a request of the tunnel still leaves nothing; behind the standard layers any
other request leaves one record if it is answered.  `Service.Each` says of a service that its answers have
a property, and `Router.All` says something of all services that a router may run.
-/
namespace Courier

variable {σ : Type} {P Q : Inbound → Served → Prop}

theorem Ending.served_of_map {f : Served → Served} {ending : Ending} {v : Served}
    (served : ending.map f = .served v) : ∃ w, ending = .served w ∧ v = f w := by
  cases ending with
  | served w =>
    cases served
    exact ⟨w, rfl, rfl⟩
  | panicked => cases served
  | silent => cases served

theorem Ending.panicked_of_map {f : Served → Served} {ending : Ending}
    (panicked : ending.map f = .panicked) : ending = .panicked := by
  cases ending with
  | served w => cases panicked
  | panicked => rfl
  | silent => cases panicked

theorem Ending.map_id (ending : Ending) : ending.map id = ending := by
  cases ending <;> rfl

/-! ### Properties of answers -/

namespace Service

/-- Each answer, beside the request that it answers. -/
def Each (P : Inbound → Served → Prop) (service : Service σ) : Prop :=
  ∀ r s v, (service r s).1 = .served v → P r v

/-- A service that does not panic. -/
def Calm (service : Service σ) : Prop := ∀ r s, (service r s).1 ≠ .panicked

/-- A property that has nothing to do with what layers and routers change on the way: the headers and the
context of the request, and all of the response but its status. -/
structure Steady (P : Inbound → Served → Prop) : Prop where
  headers : ∀ {r v} (h : Http.Headers), P { r with headers := h } v → P r v
  context : ∀ {r v} (c : Option Context), P { r with context := c } v → P r v
  response : ∀ {r v} (response : Http.Response), response.status = v.response.status → P r v →
    P r { v with response := response }

theorem Each.imp {service : Service σ} (each : Each P service) (weaker : ∀ r v, P r v → Q r v) :
    Each Q service :=
  fun r s v served => weaker r v (each r s v served)

theorem Each.requestId {inner : Service σ} (steady : Steady P) (each : Each P inner) (fresh : String) :
    Each P (Layer.requestId fresh inner) := by
  intro r s v served
  obtain ⟨w, inside, rfl⟩ := Ending.served_of_map served
  exact steady.response _ rfl (steady.headers _ (each _ s w inside))

theorem Each.inboundContext {inner : Service σ} (steady : Steady P) (each : Each P inner)
    (identity : Identity) : Each P (Layer.inboundContext identity inner) :=
  fun _ s v served => steady.context _ (each _ s v served)

theorem Each.panicGuard {inner : Service σ} (each : Each P inner)
    (caught : ∀ r, P r { response := Layer.panicResponse }) : Each P (Layer.panicGuard inner) := by
  intro r s v served
  unfold Layer.panicGuard at served
  split at served
  · cases served
    exact caught r
  · exact each r s v served

theorem Each.accessLog {inner : Service σ} (each : Each P inner)
    (tunnelled : ∀ r v, r.tunneled = true → P r v → Q r v)
    (written : ∀ r v, r.tunneled = false → P r v →
      Q r { v with records := v.records ++ [Layer.record r v] }) : Each Q (Layer.accessLog inner) := by
  intro r s v served
  unfold Layer.accessLog at served
  split at served
  · next over_tunnel => exact tunnelled r v over_tunnel (each r s v served)
  · next plain =>
    obtain ⟨w, inside, rfl⟩ := Ending.served_of_map served
    exact written r w (by simpa using plain) (each r s w inside)

end Service

namespace Router

/-- Whatever the router may run. -/
structure All (K : Service σ → Prop) (router : Router σ) : Prop where
  handlers : ∀ route ∈ router.routes, ∀ cs, K (route.handler cs)
  refusals : ∀ route ∈ router.routes, K route.refusal
  fallback : K router.fallback

variable {router : Router σ} {K L : Service σ → Prop}

theorem All.layered {layer : Layer σ} (all : router.All K) (through : ∀ inner, K inner → L (layer inner)) :
    (router.layered layer).All L where
  handlers := by
    intro route member cs
    obtain ⟨inside, listed, rfl⟩ := List.mem_map.mp member
    exact through _ (all.handlers inside listed cs)
  refusals := by
    intro route member
    obtain ⟨inside, listed, rfl⟩ := List.mem_map.mp member
    exact through _ (all.refusals inside listed)
  fallback := through _ all.fallback

theorem All.withFallback {service : Service σ} (all : router.All K) (h : K service) :
    (router.withFallback service).All K :=
  ⟨all.handlers, all.refusals, h⟩

theorem mem_of_find? {path : String} {routes : List (Route σ)} {route : Route σ} {cs : List Capture}
    (found : find? path routes = some (route, cs)) : route ∈ routes := by
  obtain ⟨pieces, _, found⟩ := Option.bind_eq_some_iff.mp found
  obtain ⟨candidate, listed, fits⟩ := List.exists_of_findSome?_eq_some found
  obtain ⟨_, _, same⟩ := Option.map_eq_some_iff.mp fits
  cases same
  exact listed

/-- What a router does with a request: a handler, a refusal or the fallback runs, and the router may still
change what is answered, but nothing else. -/
theorem service_runs (router : Router σ) (r : Inbound) (s : σ) :
    ∃ (inner : Service σ) (f : Served → Served), (∀ {K}, router.All K → K inner) ∧
      (∀ v, ∃ response : Http.Response, response.status = v.response.status ∧
        f v = { v with response := response }) ∧
      router.service r s = ((inner r s).1.map f, (inner r s).2) := by
  unfold service
  split
  · next route cs found =>
    have listed := mem_of_find? found
    unfold runRoute
    split
    · have handled : ∀ {K}, router.All K → K (route.handler cs) := fun all => all.handlers route listed cs
      dsimp only
      split
      · exact ⟨route.handler cs, dropBody, handled, fun v => ⟨(dropBody v).response, rfl, rfl⟩, rfl⟩
      · exact ⟨route.handler cs, id, handled, fun v => ⟨v.response, rfl, rfl⟩, by rw [Ending.map_id]⟩
    · exact ⟨route.refusal, addAllow route.methods, fun all => all.refusals route listed,
        fun v => ⟨(addAllow route.methods v).response, rfl, rfl⟩, rfl⟩
  · exact ⟨router.fallback, id, All.fallback, fun v => ⟨v.response, rfl, rfl⟩, by rw [Ending.map_id]⟩

theorem All.service_each (steady : Service.Steady P) (all : router.All (Service.Each P)) :
    router.service.Each P := by
  intro r s v served
  obtain ⟨inner, f, every, changed, same⟩ := router.service_runs r s
  rw [same] at served
  obtain ⟨w, inside, rfl⟩ := Ending.served_of_map served
  obtain ⟨response, kept, same⟩ := changed w
  rw [same]
  exact steady.response response kept (every all r s w inside)

theorem All.service_calm (all : router.All Service.Calm) : router.service.Calm := by
  intro r s
  obtain ⟨inner, f, every, _, same⟩ := router.service_runs r s
  rw [same]
  intro panicked
  exact every all r s (Ending.panicked_of_map panicked)

end Router

/-! ### Records -/

/-- Nothing was written down. -/
def Unlogged (_ : Inbound) (v : Served) : Prop := v.records = []

/-- Nothing was written down of a request of the tunnel. -/
def Discreet (r : Inbound) (v : Served) : Prop := r.tunneled = true → v.records = []

/-- The record tells of this request and this answer to it. -/
structure AccessRecord.Describes (a : AccessRecord) (r : Inbound) (v : Served) : Prop where
  transport : a.transport = .http
  method : a.method = r.method
  endpoint : a.endpoint = r.uri.path
  status : a.status = v.response.status.code
  elapsed : a.elapsed = v.delay
  peer : a.peer = r.peer

/-- One record was written of a request that came over HTTP, and it tells of it. -/
def LoggedOnce (r : Inbound) (v : Served) : Prop :=
  r.tunneled = false → ∃ a : AccessRecord, v.records = [a] ∧ a.Describes r v

theorem unlogged_steady : Service.Steady Unlogged := ⟨fun _ h => h, fun _ h => h, fun _ _ h => h⟩

theorem discreet_steady : Service.Steady Discreet := ⟨fun _ h => h, fun _ h => h, fun _ _ h => h⟩

theorem loggedOnce_steady : Service.Steady LoggedOnce where
  headers _ logged plain := by
    obtain ⟨a, records, described⟩ := logged plain
    exact ⟨a, records, { described with }⟩
  context _ logged plain := by
    obtain ⟨a, records, described⟩ := logged plain
    exact ⟨a, records, { described with }⟩
  response response same logged plain := by
    obtain ⟨a, records, described⟩ := logged plain
    refine ⟨a, records, { described with status := ?_ }⟩
    rw [described.status, same]

/-! ### Layers around handlers that write nothing -/

namespace Layer

/-- Layers of the library, in any order and any number. -/
inductive Stack : Layer σ → Prop where
  | none : Stack id
  | requestId {rest : Layer σ} (fresh : String) (below : Stack rest) :
      Stack fun inner => requestId fresh (rest inner)
  | accessLog {rest : Layer σ} (below : Stack rest) : Stack fun inner => accessLog (rest inner)
  | inboundContext {rest : Layer σ} (identity : Identity) (below : Stack rest) :
      Stack fun inner => inboundContext identity (rest inner)
  | panicGuard {rest : Layer σ} (below : Stack rest) : Stack fun inner => panicGuard (rest inner)

theorem standard_stack (identity : Identity) (fresh : String) :
    Stack (standard identity fresh : Layer σ) :=
  .requestId fresh (.accessLog (.inboundContext identity (.panicGuard .none)))

theorem Stack.discreet {layer : Layer σ} (stack : Stack layer) {inner : Service σ}
    (unlogged : inner.Each Unlogged) : (layer inner).Each Discreet := by
  induction stack with
  | none => exact unlogged.imp fun _ _ nothing _ => nothing
  | requestId fresh _ ih => exact ih.requestId discreet_steady fresh
  | accessLog _ ih =>
    refine ih.accessLog (fun _ _ _ nothing => nothing) fun r v plain _ tunnelled => ?_
    rw [plain] at tunnelled
    cases tunnelled
  | inboundContext identity _ ih => exact ih.inboundContext discreet_steady identity
  | panicGuard _ ih => exact ih.panicGuard fun _ _ => rfl

/-- Behind the standard layers nothing panics. -/
theorem standard_calm (identity : Identity) (fresh : String) (inner : Service σ) :
    (standard identity fresh inner).Calm := by
  have guarded : (panicGuard inner).Calm := by
    intro r s panicked
    unfold panicGuard at panicked
    split at panicked
    · cases panicked
    · next uncaught => exact uncaught _ (Prod.ext panicked rfl)
  have logged : (accessLog (inboundContext identity (panicGuard inner))).Calm := by
    intro r s panicked
    unfold accessLog at panicked
    split at panicked
    · exact guarded _ s panicked
    · exact guarded _ s (Ending.panicked_of_map panicked)
  exact fun r s panicked => logged _ s (Ending.panicked_of_map panicked)

theorem standard_loggedOnce (identity : Identity) (fresh : String) {inner : Service σ}
    (unlogged : inner.Each Unlogged) : (standard identity fresh inner).Each LoggedOnce := by
  have guarded : (inboundContext identity (panicGuard inner)).Each Unlogged :=
    (unlogged.panicGuard fun _ => rfl).inboundContext unlogged_steady identity
  have logged : (accessLog (inboundContext identity (panicGuard inner))).Each LoggedOnce := by
    refine guarded.accessLog (fun r v tunnelled _ plain => ?_) fun r v plain nothing _ => ?_
    · rw [tunnelled] at plain
      cases plain
    · refine ⟨record r v, ?_, ⟨rfl, rfl, rfl, rfl, rfl, rfl⟩⟩
      change v.records ++ [record r v] = [record r v]
      rw [show v.records = [] from nothing, List.nil_append]
  exact logged.requestId loggedOnce_steady fresh

end Layer
end Courier
