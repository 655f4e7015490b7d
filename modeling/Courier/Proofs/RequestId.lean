import Courier.Proofs.Agreement
import Courier.Proofs.Tunnel.AccessLog
/-!
One id for each request.  The outermost of the standard layers settles it, before anything else looks for
it: a first value that is text is kept, any other makes way for a fresh one, and a request of the tunnel has
got its own by then.  From there the handler reads it, among the headers and in its context, the response
takes it back, and the access log writes it down.  `Stamped` says what the layers make of a handler's end.
-/
namespace Courier

open Http (Headers isVisibleByte)
open Http.Headers (getAll get?)
open Context (requestIdHeader)

variable {σ : Type}

/-- The service that a route runs for a request. -/
def Route.answering (route : Route σ) (cs : List Capture) (r : Inbound) : Service σ :=
  if route.methods.allows r.method then route.handler cs else route.refusal

namespace Router

theorem find?_layered {layer : Layer σ} {router : Router σ} {path : String} {route : Route σ}
    {cs : List Capture} (found : find? path router.routes = some (route, cs)) :
    find? path (router.layered layer).routes =
      some ({ route with
        handler := fun cs => layer (route.handler cs), refusal := layer route.refusal }, cs) := by
  unfold find? at found ⊢
  obtain ⟨pieces, split, found⟩ := Option.bind_eq_some_iff.mp found
  rw [split, Option.bind_some, layered, List.findSome?_map]
  obtain ⟨before, x, after, listed, fits, clear⟩ := List.findSome?_eq_some_iff.mp found
  obtain ⟨captured, matching, same⟩ := Option.map_eq_some_iff.mp fits
  cases same
  refine List.findSome?_eq_some_iff.mpr ⟨before, route, after, listed, ?_, fun y member => ?_⟩
  · simp only [Function.comp_apply, matching, Option.map_some]
  · have nothing := clear y member
    simp only [Option.map_eq_none_iff, Function.comp_apply] at nothing ⊢
    exact nothing

theorem service_withFallback {router : Router σ} {r : Inbound} {route : Route σ} {cs : List Capture}
    (found : find? r.uri.path router.routes = some (route, cs)) (other : Service σ) (s : σ) :
    (router.withFallback other).service r s = router.service r s := by
  simp only [service, withFallback, found]

/-- Behind a layer a route runs its service through the layer, and changes nothing of the id of the
response, nor of the records. -/
theorem service_layered (layer : Layer σ) {router : Router σ} {r : Inbound} {route : Route σ}
    {cs : List Capture} (found : find? r.uri.path router.routes = some (route, cs)) (s : σ) :
    ∃ f : Served → Served,
      (∀ v, getAll requestIdHeader (f v).response.headers = getAll requestIdHeader v.response.headers) ∧
      (∀ v, (f v).records = v.records) ∧
      (router.layered layer).service r s =
        ((layer (route.answering cs r) r s).1.map f, (layer (route.answering cs r) r s).2) := by
  unfold service
  rw [find?_layered found]
  dsimp only [runRoute]
  unfold Route.answering
  split
  · split
    · exact ⟨dropBody, fun _ => rfl, fun _ => rfl, rfl⟩
    · exact ⟨id, fun _ => rfl, fun _ => rfl, by rw [Ending.map_id]⟩
  · refine ⟨addAllow route.methods, fun v => ?_, fun _ => rfl, rfl⟩
    exact Http.Headers.getAll_insert_of_ne (by decide) _ _

end Router

namespace Layer

variable {identity : Identity} {fresh id : String} {r : Inbound}

/-- Text that can be an id. -/
structure Usable (id : String) : Prop where
  some_id : id ≠ ""
  visible : (Text.utf8 id).all isVisibleByte = true

/-- The id of a request, by the first value that came with it. -/
inductive Identifies (fresh : String) : Option Bytes → String → Prop where
  | brought {id : String} (usable : Usable id) : Identifies fresh (some (Text.utf8 id)) id
  | missing : Identifies fresh none fresh
  | unusable {value : Bytes} (unread : ∀ id, Usable id → value ≠ Text.utf8 id) :
      Identifies fresh (some value) fresh

theorem idOf_identifies (fresh : String) (h : Headers) :
    Identifies fresh (get? requestIdHeader h) (idOf fresh h) := by
  unfold idOf Headers.text?
  cases present : get? requestIdHeader h with
  | none => exact .missing
  | some value =>
    rw [Option.bind_some]
    cases shown : Http.visible? value with
    | none =>
      refine .unusable fun id usable same => ?_
      rw [Http.visible?_iff.mpr ⟨same ▸ usable.visible, same⟩] at shown
      cases shown
    | some id =>
      obtain ⟨visible, rfl⟩ := Http.visible?_iff.mp shown
      dsimp only
      by_cases empty : id = ""
      · subst empty
        refine .unusable fun id usable same => usable.some_id ?_
        exact (Text.utf8_inj same).symm
      · rw [if_neg (by simpa using empty)]
        exact .brought ⟨empty, visible⟩

theorem Identifies.usable {value : Option Bytes} (h : Identifies fresh value id) (spare : Usable fresh) :
    Usable id := by
  cases h with
  | brought usable => exact usable
  | missing | unusable => exact spare

/-! ### What the handler sees -/

theorem seen_id (usable : Usable id) (settled : idOf fresh r.headers = id) :
    getAll requestIdHeader (seen identity fresh r).headers = [Text.utf8 id] := by
  change getAll requestIdHeader (r.headers.tryInsertText requestIdHeader (idOf fresh r.headers)) = _
  rw [settled, Headers.tryInsertText, if_pos (Http.isLegalValue_of_visible usable.visible)]
  exact Headers.getAll_insert_self _ _ _

theorem identified_text (usable : Usable id) (settled : idOf fresh r.headers = id) :
    (identified fresh r).headers.text? requestIdHeader = some id := by
  rw [identified, settled, Headers.text?,
    Headers.get?_tryInsertText_self (Http.isLegalValue_of_visible usable.visible), Option.bind_some]
  exact Http.visible?_iff.mpr ⟨usable.visible, rfl⟩

/-- Without a context of its own the request gets one with its id. -/
theorem seen_correlation (usable : Usable id) (settled : idOf fresh r.headers = id)
    (bare : r.context = none) : (seen identity fresh r).currentContext.correlationId = id := by
  have none_there : (identified fresh r).context = none := bare
  rw [seen_currentContext, Inbound.currentContext, none_there, Option.getD_none, Context.ofHeaders,
    identified_text usable settled]
  rfl

/-! ### What comes back -/

/-- The response has the id, and no other. -/
def Echoes (id : String) (v : Served) : Prop :=
  getAll requestIdHeader v.response.headers = [Text.utf8 id]

/-- What is added to these records: one with the id, unless the tunnel's end writes it. -/
def Writes (id : String) (tunneled : Bool) (before after : List AccessRecord) : Prop :=
  if tunneled then after = before else ∃ a : AccessRecord, after = before ++ [a] ∧ a.requestId = id

/-- What the layers make of the end of a handler.  A panic has become a response. -/
inductive Stamped (id : String) (tunneled : Bool) : Ending → Ending → Prop where
  | served {w v : Served} (echoes : Echoes id v) (writes : Writes id tunneled w.records v.records) :
      Stamped id tunneled (.served w) (.served v)
  | panicked {v : Served} (echoes : Echoes id v) (writes : Writes id tunneled [] v.records) :
      Stamped id tunneled .panicked (.served v)
  | silent : Stamped id tunneled .silent .silent

theorem Stamped.map {tunneled : Bool} {inside outside : Ending} (h : Stamped id tunneled inside outside)
    {f : Served → Served}
    (keeps : ∀ v, getAll requestIdHeader (f v).response.headers = getAll requestIdHeader v.response.headers)
    (adds : ∀ v, (f v).records = v.records) : Stamped id tunneled inside (outside.map f) := by
  cases h with
  | served echoes writes => exact .served ((keeps _).trans echoes) ((adds _).symm ▸ writes)
  | panicked echoes writes => exact .panicked ((keeps _).trans echoes) ((adds _).symm ▸ writes)
  | silent => exact .silent

/-- The answer that takes the id back. -/
def echo (id : String) (v : Served) : Served :=
  { v with response := { v.response with headers := v.response.headers.tryInsertText requestIdHeader id } }

theorem echo_echoes (usable : Usable id) (v : Served) : Echoes id (echo id v) := by
  unfold Echoes echo
  rw [Headers.tryInsertText, if_pos (Http.isLegalValue_of_visible usable.visible)]
  exact Headers.getAll_insert_self _ _ _

theorem requestId_ending (inner : Service σ) (s : σ) : (requestId fresh inner r s).1 =
    (inner (identified fresh r) s).1.map (echo (idOf fresh r.headers)) := rfl

theorem accessLog_ending (inner : Service σ) (s : σ) : (accessLog inner r s).1 =
    if r.tunneled then (inner r s).1
    else (inner r s).1.map fun v => { v with records := v.records ++ [record r v] } := by
  unfold accessLog
  split <;> rfl

/-- The end of a handler with panics caught. -/
def caught : Ending → Ending
  | .panicked => .served { response := panicResponse }
  | ended => ended

theorem panicGuard_ending (inner : Service σ) (s : σ) : (panicGuard inner r s).1 = caught (inner r s).1 := by
  unfold panicGuard
  cases inner r s with
  | mk ending after => cases ending <;> rfl

/-- The log reads the id off the request that the outermost layer handed over. -/
theorem logged_writes (usable : Usable id) (settled : idOf fresh r.headers = id) (v : Served)
    (plain : r.tunneled = false) :
    Writes id r.tunneled v.records (v.records ++ [record (identified fresh r) v]) := by
  unfold Writes
  rw [plain]
  refine ⟨_, rfl, ?_⟩
  rw [record, identified_text usable settled]
  rfl

/-- Of an answered request the layers log once what the tunnel does not, and the response gets the id. -/
theorem layers_answer (usable : Usable id) (settled : idOf fresh r.headers = id) {inner : Service σ} {s : σ}
    {w : Served} (answered : caught (inner (seen identity fresh r) s).1 = .served w) :
    ∃ v, (standard identity fresh inner r s).1 = .served v ∧ Echoes id v ∧
      Writes id r.tunneled w.records v.records := by
  have within : (inboundContext identity (panicGuard inner) (identified fresh r) s).1 = .served w :=
    (panicGuard_ending inner s).trans answered
  unfold standard
  rw [requestId_ending, settled, accessLog_ending, within]
  cases tunneled : r.tunneled with
  | true =>
    have over_tunnel : (identified fresh r).tunneled = true := tunneled
    rw [if_pos over_tunnel]
    exact ⟨_, rfl, echo_echoes usable w, rfl⟩
  | false =>
    have plain : ¬ (identified fresh r).tunneled = true := by
      rw [show (identified fresh r).tunneled = false from tunneled]
      exact Bool.false_ne_true
    rw [if_neg plain]
    have writes := logged_writes usable settled w tunneled
    rw [tunneled] at writes
    exact ⟨_, rfl, echo_echoes usable _, writes⟩

theorem standard_stamps (usable : Usable id) (settled : idOf fresh r.headers = id) (inner : Service σ)
    (s : σ) :
    Stamped id r.tunneled (inner (seen identity fresh r) s).1 (standard identity fresh inner r s).1 := by
  cases ended : (inner (seen identity fresh r) s).1 with
  | served w =>
    obtain ⟨v, served, echoes, writes⟩ := layers_answer usable settled (congrArg caught ended)
    rw [served]
    exact .served echoes writes
  | panicked =>
    obtain ⟨v, served, echoes, writes⟩ := layers_answer usable settled (congrArg caught ended)
    rw [served]
    exact .panicked echoes writes
  | silent =>
    have within : (inboundContext identity (panicGuard inner) (identified fresh r) s).1 = .silent :=
      (panicGuard_ending inner s).trans (congrArg caught ended)
    unfold standard
    rw [requestId_ending, accessLog_ending, within]
    split <;> exact .silent

/-! ### A router -/

/-- A router behind the standard layers has this one id for a request that a route takes: its handler is run
once, sees the id alone among the headers and in its context, and its end is stamped with it.  It does not
matter what serves the requests that no route takes. -/
def Carries (identity : Identity) (fresh : String) (router : Router σ) (r : Inbound) (id : String) : Prop :=
  ∀ route cs, Router.find? r.uri.path router.routes = some (route, cs) →
    ∃ r' : Inbound, getAll requestIdHeader r'.headers = [Text.utf8 id] ∧
      r'.currentContext.correlationId = id ∧
      ∀ fallback s, ∃ ending,
        ((router.layered (standard identity fresh)).withFallback fallback).service r s =
          (ending, (route.answering cs r r' s).2) ∧
        Stamped id r.tunneled (route.answering cs r r' s).1 ending

theorem carries_of_idOf {router : Router σ} (usable : Usable id) (settled : idOf fresh r.headers = id)
    (known : (seen identity fresh r).currentContext.correlationId = id) :
    Carries identity fresh router r id := by
  intro route cs found
  refine ⟨seen identity fresh r, seen_id usable settled, known, fun fallback s => ?_⟩
  obtain ⟨f, keeps, adds, ran⟩ := Router.service_layered (standard identity fresh) found s
  refine ⟨_, ?_, (standard_stamps usable settled (route.answering cs r) s).map keeps adds⟩
  rw [Router.service_withFallback (Router.find?_layered found), ran, standard_shows identity fresh r]

/-- The id of a message is the id of its request, in spite of what its headers say. -/
theorem carries_message {router : Router σ} {m : Tunnel.Message} {boundary : String} {peer : Option String}
    (usable : Usable m.knownId) (taken : m.inbound? boundary peer = .ok r) :
    Carries identity fresh router r m.knownId := by
  have legal := Http.isLegalValue_of_visible usable.visible
  have shown : r.headers.text? requestIdHeader = some m.knownId := by
    rw [Tunnel.inbound?_headers taken]
    unfold Tunnel.Message.inboundHeaders Headers.text?
    rw [Headers.get?_tryInsertText_self legal, Option.bind_some]
    exact Http.visible?_iff.mpr ⟨usable.visible, rfl⟩
  refine carries_of_idOf usable (idOf_of_visible usable.some_id shown) ?_
  rw [seen_of_context (Tunnel.inbound?_context taken)]
  rfl

theorem knownId_usable {m : Tunnel.Message} (visible : (Text.utf8 m.requestId).all isVisibleByte = true) :
    Usable m.knownId := by
  unfold Tunnel.Message.knownId
  split
  · exact ⟨by decide, by decide +kernel⟩
  · next some_id => exact ⟨by simpa using some_id, visible⟩

open Tunnel (Message execute unregistered) in
/-- A call of the tunnel that has come to an end is logged last of all, by its id; what was logged before
is what the service itself wrote. -/
theorem execute_logs_id (service : Service σ) (boundary : String) (now : Instant) (metadata : Headers)
    (peer : Option String) (m : Message) (cancel : Option Duration) (tracker : Tracker) (world : σ) :
    let e := execute service boundary now metadata peer m cancel tracker world
    e.ending ≠ .pending → ∃ before a, e.records = before ++ [a] ∧ a.requestId = m.knownId ∧
      ∀ b ∈ before, ∃ r v, m.inbound? boundary peer = .ok r ∧ (service r world).1 = .served v ∧
        b ∈ v.records := by
  intro e finished
  obtain ⟨before, records, written⟩ := Tunnel.execute_records service boundary now metadata peer m cancel
    tracker world
  change e.records = before ++ Tunnel.recordsOf m peer _ e.elapsed e.ending at records
  rw [Tunnel.recordsOf_ended finished] at records
  exact ⟨before, _, records, rfl, written⟩

/-- Behind the standard layers each request that a route takes has one id.  A request that comes over HTTP
has the one that it brings first, if that is text, and a fresh one otherwise.  A message of the tunnel has
its own, or is unknown, and the tunnel's end logs it by that. -/
theorem one_id_per_request (router : Router σ) (identity : Identity) {fresh : String} (spare : Usable fresh) :
    (∀ r : Inbound, r.context = none → r.tunneled = false →
      ∃ id, Usable id ∧ Identifies fresh (get? requestIdHeader r.headers) id ∧
        Carries identity fresh router r id) ∧
    ∀ (m : Tunnel.Message) (boundary : String) (peer : Option String) (r : Inbound),
      (Text.utf8 m.requestId).all isVisibleByte = true → m.inbound? boundary peer = .ok r →
      ∃ id, Usable id ∧ id = (if m.requestId = "" then "unknown" else m.requestId) ∧
        Carries identity fresh router r id ∧
        ∀ now metadata cancel tracker world,
          let service := ((router.layered (standard identity fresh)).withFallback Tunnel.unregistered).service
          let e := Tunnel.execute service boundary now metadata peer m cancel tracker world
          e.ending ≠ .pending → ∃ before a, e.records = before ++ [a] ∧ a.requestId = id ∧
            ∀ b ∈ before, ∃ v, (service r world).1 = .served v ∧ b ∈ v.records := by
  constructor
  · intro r bare _
    have identifies := idOf_identifies fresh r.headers
    have usable := identifies.usable spare
    exact ⟨_, usable, identifies, carries_of_idOf usable rfl (seen_correlation usable rfl bare)⟩
  · intro m boundary peer r visible taken
    have usable := knownId_usable visible
    have named : m.knownId = if m.requestId = "" then "unknown" else m.requestId := by
      simp only [Tunnel.Message.knownId, beq_iff_eq, Context.unknownId]
    refine ⟨_, usable, named, carries_message usable taken, ?_⟩
    intro now metadata cancel tracker world service e finished
    obtain ⟨before, a, records, known, written⟩ := execute_logs_id service boundary now metadata peer m cancel
      tracker world finished
    refine ⟨before, a, records, known, fun b member => ?_⟩
    obtain ⟨r', v, taken', served, listed⟩ := written b member
    cases taken.symm.trans taken'
    exact ⟨v, served, listed⟩

/-- A message without an id, with a header that claims one. -/
def forged : Tunnel.Message := { Tunnel.streamed with headers := [("X-Request-Id", "req-7")] }

/-- The message is unknown all the same, and the same request over HTTP has the first of its two ids. -/
theorem forged_has_one_id :
    let identity : Identity := ⟨"ledger", "s"⟩
    let router := Tunnel.streaming
    let service := ((router.layered (standard identity "fresh")).withFallback Tunnel.unregistered).service
    let e := Tunnel.execute service "part" 0 Tunnel.framing none forged (some (.ofMillis 3)) {} ()
    Usable "fresh" ∧ ∃ r, forged.inbound? "part" none = .ok r ∧
      (Router.find? r.uri.path router.routes).isSome = true ∧ Carries identity "fresh" router r "unknown" ∧
      e.ending ≠ .pending ∧ (∃ before a, e.records = before ++ [a] ∧ a.requestId = "unknown") ∧
      ∀ direct : Inbound, direct.context = none → direct.tunneled = false →
        direct.headers = [(requestIdHeader, Text.utf8 "req-7"), (requestIdHeader, Text.utf8 "req-8")] →
        Carries identity "fresh" router direct "req-7" := by
  intro identity router service e
  have spare : Usable "fresh" := ⟨by decide, by decide +kernel⟩
  have routed : ∃ r, forged.inbound? "part" none = .ok r ∧
      (Router.find? r.uri.path router.routes).isSome = true := by
    have accepted : ((forged.inbound? "part" none).toOption.any fun r =>
        (Router.find? r.uri.path router.routes).isSome) = true := by decide +kernel
    obtain ⟨r, taken, found⟩ := Option.any_eq_true .. |>.mp accepted
    cases whole : forged.inbound? "part" none with
    | error status =>
      rw [whole] at taken
      cases taken
    | ok r' =>
      rw [whole] at taken
      cases taken
      exact ⟨r, rfl, found⟩
  obtain ⟨r, taken, found⟩ := routed
  have one := one_id_per_request router identity spare
  obtain ⟨id, _, named, carries, logs⟩ := one.2 forged "part" none r (by decide +kernel) taken
  obtain rfl : id = "unknown" := named.trans (if_pos rfl)
  have finished : e.ending ≠ .pending := Tunnel.execute_finishes _ _ _ _ _ _ _ _ _
  obtain ⟨before, a, records, known, _⟩ := logs 0 Tunnel.framing (some (.ofMillis 3)) {} () finished
  refine ⟨spare, r, taken, found, carries, finished, ⟨before, a, records, known⟩, ?_⟩
  intro direct bare plain sent
  obtain ⟨id, _, identifies, carries⟩ := one.1 direct bare plain
  have first : get? requestIdHeader direct.headers = some (Text.utf8 "req-7") := by
    rw [sent]
    rfl
  rw [first] at identifies
  generalize shown : some (Text.utf8 "req-7") = value at identifies
  cases identifies with
  | brought _ =>
    obtain rfl := Text.utf8_inj (Option.some.inj shown)
    exact carries
  | missing => cases shown
  | unusable unread =>
    exact absurd (Option.some.inj shown).symm (unread "req-7" ⟨by decide, by decide +kernel⟩)

end Layer
end Courier
