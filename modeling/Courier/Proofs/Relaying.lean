import Courier.Relay
import Courier.Proofs.Bodies
import Courier.Proofs.Tunnel.Hearing
/-!
Faults on their way back.  A service that fails because another one failed answers with the fault in one
of a few forms, and whoever called it may raise what it hears and answer with that in turn.  The status and
the JSON of the body are the same from the first answer on, whatever carries them and however many services
stand in between; so the fault that is raised in the end has the status, the code and the description of
the first one.
-/
namespace Courier

open Json (Plain IsInt)

namespace Fault

/-- A fault that the next hop can tell from others: what a service responded with reports a failure, and
its body was read from plain JSON. -/
def Legible : Fault → Prop
  | .responded _ status body =>
    400 ≤ status ∧ status ≤ 999 ∧ ∃ raw, Plain IsInt Json.nestingLimit raw ∧ body = ErrorBody.ofJson raw
  | _ => True

/-- A fault shows its own words, or the object that a service responded with. -/
theorem body_cases (f : Fault) : f.body = f.ownBody ∨
    ∃ service status b, f = .responded service status b ∧ b.raw.isObject = true ∧ f.body = b.raw := by
  cases f with
  | responded service status b =>
    by_cases object : b.raw.isObject = true
    · exact .inr ⟨service, status, b, rfl, object, if_pos object⟩
    · exact .inl (if_neg object)
  | unavailable | timeout | protocol | unknown => exact .inl rfl

theorem ownBody_plain (f : Fault) : Plain IsInt Json.nestingLimit f.ownBody := by
  have ordered : Table.Ordered [("description", Json.str f.description), ("error_code", .str f.errorCode),
      ("message", .str f.text), ("service", .str f.service)] := by
    change (["description", "error_code", "message", "service"] : List String).Pairwise (· < ·)
    decide
  change Plain IsInt (126 + 1) f.ownBody
  refine .obj ordered fun field member => ?_
  simp only [List.mem_cons, List.not_mem_nil, or_false] at member
  rcases member with rfl | rfl | rfl | rfl <;> exact .str _

theorem body_plain {f : Fault} (legible : f.Legible) : Plain IsInt Json.nestingLimit f.body := by
  rcases f.body_cases with own | ⟨service, status, b, rfl, _, same⟩
  · rw [own]
    exact ownBody_plain f
  · obtain ⟨_, _, raw, plain, rfl⟩ := legible
    rw [same]
    exact plain

theorem body_isObject (f : Fault) : f.body.isObject = true := by
  rcases f.body_cases with own | ⟨_, _, b, _, object, same⟩
  · rw [own]
    rfl
  · rw [same]
    exact object

/-- The body of a fault is read back with the fault's own code and description. -/
theorem body_read {f : Fault} (legible : f.Legible) : (ErrorBody.ofJson f.body).errorCode = f.errorCode ∧
    (ErrorBody.ofJson f.body).summary = f.description := by
  rcases f.body_cases with own | ⟨service, status, b, rfl, _, same⟩
  · rw [own]
    exact ⟨rfl, rfl⟩
  · obtain ⟨_, _, raw, _, rfl⟩ := legible
    rw [same]
    exact ⟨rfl, rfl⟩

theorem status_isFailure {f : Fault} (legible : f.Legible) : f.status.isFailure = true := by
  cases f with
  | responded service n b =>
    obtain ⟨failure, known, _⟩ := legible
    have inRange : Http.Status.ofNat? n = some ⟨n, by omega, by omega⟩ := dif_pos ⟨by omega, by omega⟩
    simp only [status, inRange, Option.getD_some, Http.Status.isFailure, decide_eq_true_eq]
    exact failure
  | unavailable | timeout | protocol | unknown => rfl

end Fault

/-! ### One hop -/

/-- What a client hears of a response that comes over one of the transports. -/
def Http.Response.heard (service : String) (t : Transport) (r : Http.Response) : Outcome :=
  match t with
  | .http => (Http.Delivery.answered r.status r.body).outcome service .zero
  | .tunnel => (Tunnel.Delivery.answered ⟨r.body, r.status.code⟩).outcome service .zero

/-- The forms in which a service answers with a fault: as the fault's own response, as that of a failure of
its own, or with the reply that stands for the fault. -/
inductive FaultForm where
  | fault
  | failure
  | reply (transport : Transport)

def FaultForm.response (f : Fault) : FaultForm → Http.Response
  | .fault => f.response
  | .failure => (Failure.dispatch f).response
  | .reply t => Relay.outcomeResponse (.ok (Reply.ofFault f t))

/-- A service between two others: the name by which it knows the one that it calls, what carries the answer
to it, whether it raises failures, and how it answers with them. -/
structure Hop where
  service : String
  transport : Transport
  propagate : Bool
  form : FaultForm

/-- What a service answers that called another one and was answered `r`. -/
def Hop.answer (r : Http.Response) (hop : Hop) : Http.Response :=
  match (Client.settle hop.service hop.propagate hop.transport (r.heard hop.service hop.transport) []).1 with
  | .ok reply => Relay.outcomeResponse (.ok reply)
  | .error f => hop.form.response f

namespace Fault

/-- Both are failures with one status, one code and one description, and show the same JSON. -/
structure Same (f g : Fault) : Prop where
  status : g.status = f.status
  errorCode : g.errorCode = f.errorCode
  description : g.description = f.description
  body : g.body = f.body

/-- A fault that was raised at a hop tells of the same failure as `f`. -/
structure Raised (service : String) (f : Fault) (o : Outcome) : Prop where
  responded : ∃ body, o = .error (.responded service f.status.code body)
  same : ∀ g, o = .error g → f.Same g

/-- The response carries the fault: it has its status, and the text of its JSON for a body. -/
structure CarriedBy (f : Fault) (r : Http.Response) : Prop where
  status : r.status = f.status
  body : r.body = f.body.bytes

theorem form_carries (f : Fault) (form : FaultForm) : f.CarriedBy (form.response f) := by
  cases form <;> exact ⟨rfl, rfl⟩

theorem CarriedBy.of_same {f g : Fault} (same : f.Same g) {r : Http.Response} (h : g.CarriedBy r) :
    f.CarriedBy r :=
  ⟨h.status.trans same.status, by rw [h.body, same.body]⟩

/-- What the next client makes of a fault when it raises it. -/
def atNext (service : String) (f : Fault) : Fault :=
  .responded service f.status.code (ErrorBody.ofJson f.body)

theorem atNext_same {f : Fault} (legible : f.Legible) (service : String) : f.Same (f.atNext service) where
  status := by
    change (Http.Status.ofNat? f.status.code).getD .internalError = f.status
    rw [Http.Status.ofNat?_code, Option.getD_some]
  errorCode := (body_read legible).1
  description := (body_read legible).2
  body := if_pos f.body_isObject

theorem heard_carried {f : Fault} (legible : f.Legible) {r : Http.Response} (carried : f.CarriedBy r)
    (service : String) (t : Transport) : r.heard service t = .ok ⟨f.status, f.body, t⟩ := by
  have read : Reply.decodeBody r.body = f.body := by
    rw [carried.body]
    exact Reply.decodeBody_bytes (body_plain legible)
  cases t with
  | http => simp only [Http.Response.heard, Http.Delivery.outcome, read, carried.status]
  | tunnel =>
    simp only [Http.Response.heard, Tunnel.Delivery.outcome, Tunnel.reply_outcome, read, carried.status]

theorem settle_raised {f : Fault} (legible : f.Legible) (service : String) (t t' : Transport) :
    (Client.settle service true t (.ok ⟨f.status, f.body, t'⟩) []).1 = .error (f.atNext service) := by
  simp only [Client.settle, Client.raise, Bool.true_and, status_isFailure legible, if_true, Client.handOver,
    atNext]

theorem settle_handedOn (f : Fault) (service : String) (t t' : Transport) :
    (Client.settle service false t (.ok ⟨f.status, f.body, t'⟩) []).1 = .ok ⟨f.status, f.body, t'⟩ := by
  simp only [Client.settle, Client.raise, Bool.false_and, Bool.false_eq_true, if_false, Client.handOver]

/-- A service in between answers with the fault that it was answered with. -/
theorem hop_carries {f : Fault} (legible : f.Legible) {r : Http.Response} (carried : f.CarriedBy r)
    (hop : Hop) : f.CarriedBy (hop.answer r) := by
  unfold Hop.answer
  rw [heard_carried legible carried]
  cases hop.propagate with
  | true =>
    rw [settle_raised legible]
    exact .of_same (atNext_same legible hop.service) (form_carries _ hop.form)
  | false =>
    rw [settle_handedOn]
    exact ⟨rfl, rfl⟩

/-! ### Any number of hops -/

theorem hops_carry {f : Fault} (legible : f.Legible) (hops : List Hop) {r : Http.Response}
    (carried : f.CarriedBy r) : f.CarriedBy (hops.foldl Hop.answer r) := by
  induction hops generalizing r with
  | nil => exact carried
  | cons hop rest ih => exact ih (hop_carries legible carried hop)

theorem raised_of_atNext {f : Fault} (legible : f.Legible) {service : String} {o : Outcome}
    (h : o = .error (f.atNext service)) : f.Raised service o where
  responded := ⟨_, h⟩
  same := by
    rintro g rfl
    obtain rfl := Except.error.inj h
    exact atNext_same legible service

/-- However a fault is answered with, whatever services hand it on and whatever carries it, the client that
raises it in the end raises the same failure, and the JSON has been the same all the way.  The reply that
stands for the fault is raised as the same failure, too. -/
theorem raised_after_hops {f : Fault} (legible : f.Legible) (form : FaultForm) (hops : List Hop)
    (service : String) (t : Transport) :
    let r := hops.foldl Hop.answer (form.response f)
    f.CarriedBy r ∧ f.Raised service (Client.settle service true t (r.heard service t) []).1 ∧
      f.Raised service (Client.settle service true t (.ok (Reply.ofFault f t)) []).1 := by
  intro r
  have carried : f.CarriedBy r := hops_carry legible hops (form_carries f form)
  refine ⟨carried, ?_, ?_⟩
  · apply raised_of_atNext legible
    rw [heard_carried legible carried, settle_raised legible]
  · apply raised_of_atNext legible
    exact settle_raised legible service t t

theorem refusal_after_hops :
    let f : Fault := .responded "ledger" 503 (.ofJson (.arr [.str "down", .int 2]))
    let hops : List Hop := [⟨"ledger", .tunnel, true, .fault⟩, ⟨"orders", .http, false, .fault⟩,
      ⟨"orders", .http, true, .reply .tunnel⟩]
    f.Legible ∧
      let r := hops.foldl Hop.answer (FaultForm.failure.response f)
      f.CarriedBy r ∧ f.Raised "shop" (Client.settle "shop" true .tunnel (r.heard "shop" .tunnel) []).1 ∧
        f.Raised "shop" (Client.settle "shop" true .tunnel (.ok (Reply.ofFault f .tunnel)) []).1 := by
  intro f hops
  have legible : f.Legible := by
    have plain : Plain IsInt (126 + 1) (.arr [.str "down", .int 2]) := by
      refine .arr fun j member => ?_
      simp only [List.mem_cons, List.not_mem_nil, or_false] at member
      rcases member with rfl | rfl
      · exact .str _
      · exact .int ⟨by decide, by decide⟩
    exact ⟨by decide, by decide, _, plain, rfl⟩
  exact ⟨legible, raised_after_hops legible .failure hops "shop" .tunnel⟩

end Fault
end Courier
