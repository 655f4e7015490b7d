import Courier.Service.Layers
import Courier.Proofs.Http.Headers
/-!
What the standard layers run a service with.  The request that they hand over is the one that came in, with
its id among the headers and its context settled; they run the service with it once, and the state of
the service is what that run leaves.  `Shows` says so without naming the request that is handed over,
and `Shows.unique` says that there is one such request only.
-/
namespace Courier.Layer

/-- The request of the outermost layer, which sets the id. -/
def identified (fresh : String) (r : Inbound) : Inbound :=
  { r with headers := r.headers.tryInsertText Context.requestIdHeader (idOf fresh r.headers) }

/-- The request that the standard layers hand over. -/
def seen (identity : Identity) (fresh : String) (r : Inbound) : Inbound :=
  { identified fresh r with context := some (contextOf identity (identified fresh r)) }

/-- Behind the standard layers, for `r` every service is run once, and with `r'`. -/
def Shows (identity : Identity) (fresh : String) (r r' : Inbound) : Prop :=
  ∀ (σ : Type) (inner : Service σ) (s : σ), (standard identity fresh inner r s).2 = (inner r' s).2

section

variable {σ : Type} (inner : Service σ) (r : Inbound) (s : σ)

theorem requestId_state (fresh : String) :
    (requestId fresh inner r s).2 = (inner (identified fresh r) s).2 := rfl

theorem accessLog_state : (accessLog inner r s).2 = (inner r s).2 := by
  unfold accessLog
  split <;> rfl

theorem inboundContext_state (identity : Identity) :
    (inboundContext identity inner r s).2 =
      (inner { r with context := some (contextOf identity r) } s).2 := rfl

theorem panicGuard_state : (panicGuard inner r s).2 = (inner r s).2 := by
  unfold panicGuard
  split
  · next x ended => rw [ended]
  · rfl

end

theorem standard_shows (identity : Identity) (fresh : String) (r : Inbound) :
    Shows identity fresh r (seen identity fresh r) := by
  intro σ inner s
  unfold standard
  rw [requestId_state, accessLog_state, inboundContext_state, panicGuard_state]
  rfl

theorem Shows.unique {identity : Identity} {fresh : String} {r a b : Inbound}
    (first : Shows identity fresh r a) (second : Shows identity fresh r b) : a = b := by
  have same := (first (Option Inbound) (fun request _ => (.silent, some request)) none).symm.trans
    (second (Option Inbound) (fun request _ => (.silent, some request)) none)
  exact Option.some.inj same

/-- All that the calling service is read off. -/
theorem callerService_congr (identity : Identity) {h h' : Http.Headers}
    (same : h.text? "authorization" = h'.text? "authorization") :
    callerService identity h = callerService identity h' := by
  unfold callerService bearer?
  rw [same]

/-- The context that a service sees: what the request says, but for the calling service, which is read
off the headers that came in. -/
theorem seen_currentContext (identity : Identity) (fresh : String) (r : Inbound) :
    (seen identity fresh r).currentContext =
      { (identified fresh r).currentContext with callerService := callerService identity r.headers } := by
  have untouched : Http.Headers.text? "authorization" (identified fresh r).headers =
      Http.Headers.text? "authorization" r.headers := by
    unfold Http.Headers.text? identified
    rw [Http.Headers.get?_tryInsertText_of_ne (by decide)]
  change contextOf identity (identified fresh r) = _
  rw [contextOf, callerService_congr identity untouched]

theorem seen_callerService (identity : Identity) (fresh : String) (r : Inbound) :
    (seen identity fresh r).currentContext.callerService = callerService identity r.headers := by
  rw [seen_currentContext]

/-! ### Who vouches for the calling service -/

/-- The claims that a first value of the authorization header vouches for: those of a good token that
it shows, else none. -/
inductive Vouched (identity : Identity) (value : Option Bytes) : Fields → Prop where
  | signed {token : String} {claims : ServiceClaims}
      (shown : value = some (Text.utf8 (bearerOpening ++ token)))
      (visible : (Text.utf8 (bearerOpening ++ token)).all Http.isVisibleByte = true)
      (verified : Token.verify identity token = .ok claims) : Vouched identity value claims.fields
  | unsigned (missing : ∀ token claims, value = some (Text.utf8 (bearerOpening ++ token)) →
      (Text.utf8 (bearerOpening ++ token)).all Http.isVisibleByte = true →
      Token.verify identity token ≠ .ok claims) : Vouched identity value []

theorem bearer?_iff {h : Http.Headers} {token : String} :
    bearer? h = some token ↔ Http.Headers.get? "authorization" h = some (Text.utf8 (bearerOpening ++ token)) ∧
      (Text.utf8 (bearerOpening ++ token)).all Http.isVisibleByte = true := by
  unfold bearer? Http.Headers.text?
  constructor
  · intro shown
    obtain ⟨text, read, cut⟩ := Option.bind_eq_some_iff.mp shown
    obtain ⟨value, present, visible⟩ := Option.bind_eq_some_iff.mp read
    obtain ⟨all, rfl⟩ := Http.visible?_iff.mp visible
    obtain rfl := Text.dropStart?_iff.mp cut
    exact ⟨present, all⟩
  · rintro ⟨present, all⟩
    rw [present, Option.bind_some, Http.visible?_iff.mpr ⟨all, rfl⟩, Option.bind_some]
    exact Text.dropStart?_iff.mpr rfl

theorem callerService_vouched (identity : Identity) (h : Http.Headers) :
    Vouched identity (Http.Headers.get? "authorization" h) (callerService identity h) := by
  unfold callerService
  cases shown : bearer? h with
  | none =>
    refine .unsigned fun token claims present visible => ?_
    rw [bearer?_iff.mpr ⟨present, visible⟩] at shown
    cases shown
  | some token =>
    obtain ⟨present, visible⟩ := bearer?_iff.mp shown
    dsimp only
    cases checked : Token.verify identity token with
    | ok claims => exact .signed present visible checked
    | error e =>
      refine .unsigned fun other claims present' visible' verified => ?_
      rw [bearer?_iff.mpr ⟨present', visible'⟩] at shown
      cases shown
      rw [checked] at verified
      cases verified

end Courier.Layer
