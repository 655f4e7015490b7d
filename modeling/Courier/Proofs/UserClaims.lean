import Courier.Proofs.Agreement
import Courier.Proofs.Struct.Stability
/-!
The integers of a user's claims.  Through the tunnel claims travel as a struct, whose numbers are doubles, and
over HTTP as text.  Behind the tunnel an integer of at most 53 bits is what it was, and any other is the double
nearest to it; so both transports show the same user exactly if all integers of the claims are that short.
-/
namespace Courier

open Json (IsInt Plain WellFormed reach?)
open Layer (Shows)

namespace Claims

/-- What stands at the places of integers, before and after the claims were a struct. -/
structure IntegersPass (claims : Fields) : Prop where
  /-- An integer that is found was the number at its place. -/
  found : ∀ place n, reach? place (.obj (Struct.toJson (Struct.ofJson claims))) = some (.int n) → Whole n ∧
    (reach? place (.obj claims) = some (.int n) ∨
      ∃ x, reach? place (.obj claims) = some (.double x) ∧ x.value = n)
  stands : ∀ place n, reach? place (.obj claims) = some (.int n) →
    reach? place (.obj (Struct.toJson (Struct.ofJson claims))) =
      some (if Whole n then .int n else .double (Double.ofInt n))

theorem crossed_eq_int {double : Double → Prop} {depth : Nat} {j : Json} (h : Json.Formed double depth j)
    {n : Int} (became : Value.crossed j = .int n) :
    Whole n ∧ (j = .int n ∨ ∃ x, j = .double x ∧ x.value = n) := by
  cases h with
  | null | bool | str => cases became
  | @int _ k kept =>
    rw [Value.crossed_int, Value.numberJson_ofInt_eq kept] at became
    split at became
    · next whole =>
      cases became
      exact ⟨whole, .inl rfl⟩
    · cases became
  | @double _ x _ =>
    obtain ⟨_, denotes, whole⟩ := Value.numberJson_eq_int_iff.mp became
    exact ⟨whole, .inr ⟨x, rfl, denotes⟩⟩
  | arr each =>
    rw [Value.crossed_arr] at became
    cases became
  | obj ordered each =>
    rw [Value.crossed_obj] at became
    cases became

theorem integersPass {claims : Fields} (formed : WellFormed (.obj claims)) : IntegersPass claims := by
  obtain ⟨depth, formed⟩ := formed
  refine ⟨fun place n found => ?_, fun place n stood => ?_⟩
  · rw [Struct.obj_toJson_ofJson, Value.reach?_crossed] at found
    obtain ⟨j, stood, became⟩ := Option.map_eq_some_iff.mp found
    rw [stood]
    obtain ⟨whole, origin⟩ := crossed_eq_int (formed.reach stood) became
    refine ⟨whole, origin.imp (congrArg some) ?_⟩
    rintro ⟨x, same, denotes⟩
    exact ⟨x, congrArg some same, denotes⟩
  · cases formed.reach stood with
    | int kept =>
      rw [Struct.obj_toJson_ofJson, Value.reach?_crossed, stood, Option.map_some, Value.crossed_int,
        Value.numberJson_ofInt_eq kept]

/-- Claims with no other numbers stay what they are exactly if their integers do. -/
theorem toJson_ofJson_eq_self_iff {depth : Nat} {claims : Fields} (plain : Plain IsInt depth (.obj claims)) :
    Struct.toJson (Struct.ofJson claims) = claims ↔
      ∀ place n, reach? place (.obj claims) = some (.int n) → Whole n := by
  constructor
  · intro same place n stood
    have back := Value.reach?_crossed place (.obj claims)
    rw [← Struct.obj_toJson_ofJson, same, stood, Option.map_some, Value.crossed_int] at back
    exact (Value.numberJson_eq_int_iff.mp (Option.some.inj back).symm).2.2
  · intro integers
    have formed : Json.Formed (fun _ => True) depth (.obj claims) := plain.formed fun _ kept => kept
    have kept := Value.crossed_of_settled formed integers fun place x found =>
      absurd found (plain.integral place x)
    exact Json.obj.inj ((Struct.obj_toJson_ofJson claims).trans kept)

end Claims

/-- The user claims of a request without a context are those of its headers, whatever its id. -/
theorem Layer.seen_callerUser {identity : Identity} {fresh : String} {r : Inbound} {claims : Fields}
    (bare : r.context = none)
    (claimed : (r.headers.text? Claims.userHeader).bind Claims.decode? = some claims) :
    (Layer.seen identity fresh r).currentContext.callerUser = claims := by
  have none_there : (Layer.identified fresh r).context = none := bare
  have kept : (Layer.identified fresh r).headers.text? Claims.userHeader =
      r.headers.text? Claims.userHeader := by
    rw [Layer.identified, Http.Headers.text?, Http.Headers.get?_tryInsertText_of_ne (by decide)]
    rfl
  rw [Layer.seen_currentContext, Inbound.currentContext, none_there, Option.getD_none]
  change ((((Layer.identified fresh r).headers.text? Claims.userHeader).bind Claims.decode?).getD []) = claims
  rw [kept, claimed, Option.getD_some]

namespace Call

variable (identity : Identity) (c : Call) (user : Fields)

/-- A handler that the call's headers reach over HTTP sees this user. -/
def SeenDirectly : Prop :=
  ∀ (fresh : String) (r : Inbound), r.headers = c.headers → r.context = none →
    ∃ r', Shows identity fresh r r' ∧ r'.currentContext.callerUser = user

/-- A handler that the call's message reaches through the tunnel, its headers in any order, sees this user. -/
def SeenTunnelled : Prop :=
  ∀ (fresh boundary : String) (peer : Option String) (carried : Table String) (r : Inbound),
    carried.Perm c.message.headers →
    Tunnel.Message.inbound? boundary peer { c.message with headers := carried } = .ok r →
    ∃ r', Shows identity fresh r r' ∧ r'.currentContext.callerUser = user

variable {c}

theorem seenDirectly {token : String} {multipart : Bool} {date : String}
    (built : c.headers = Outbound.headers c.context token multipart c.request.headers c.span date)
    (plain : Plain IsInt Json.nestingLimit (.obj c.context.callerUser)) :
    c.SeenDirectly identity c.context.callerUser := by
  intro fresh r sent bare
  have claimed : (r.headers.text? Claims.userHeader).bind Claims.decode? =
      some c.context.callerUser := by
    have shown := Http.visible?_iff.mpr ⟨Claims.encode_visible c.context.callerUser, rfl⟩
    rw [sent, built, Http.Headers.text?, Outbound.user_headers, Option.bind_some, shown, Option.bind_some,
      Claims.decode?_encode_integers plain]
  exact ⟨_, Layer.standard_shows identity fresh r, Layer.seen_callerUser bare claimed⟩

theorem seenTunnelled :
    c.SeenTunnelled identity (Struct.toJson (Struct.ofJson c.context.callerUser)) := by
  intro fresh boundary peer carried r order taken
  refine ⟨_, Layer.standard_shows identity fresh r, ?_⟩
  rw [Layer.seen_of_context (Tunnel.inbound?_context taken)]
  rfl

end Call

namespace Claims

/-- For claims with any integers of 64 bits, signed or unsigned, at any depth. -/
theorem user_agrees_iff_short (claims : Fields) (formed : WellFormed (.obj claims)) :
    IntegersPass claims ∧
      ∀ (identity : Identity) (c : Call) (token : String) (multipart : Bool) (date : String),
        c.context.callerUser = claims →
        c.headers = Outbound.headers c.context token multipart c.request.headers c.span date →
        Plain IsInt Json.nestingLimit (.obj claims) →
        c.SeenDirectly identity claims ∧
          c.SeenTunnelled identity (Struct.toJson (Struct.ofJson claims)) ∧
          (Struct.toJson (Struct.ofJson claims) = claims ↔
            ∀ place n, reach? place (.obj claims) = some (.int n) → Whole n) := by
  refine ⟨integersPass formed, ?_⟩
  rintro identity c token multipart date rfl built plain
  exact ⟨Call.seenDirectly identity built plain, Call.seenTunnelled identity,
    toJson_ofJson_eq_self_iff plain⟩

/-- A user with an id of 54 bits. -/
def holder : Context where
  correlationId := "req-1"
  callerUser := [("id", .int 9007199254740993), ("level", .int (-3))]

def holding : Call :=
  { Call.visit with
    context := holder
    headers := Outbound.headers holder "unsigned" false [("x-lane", "fast")] none
      "Thu, 01 Jan 1970 00:00:00 GMT" }

theorem holder_plain : Plain IsInt Json.nestingLimit (.obj holder.callerUser) := by
  have ordered : Table.Ordered holder.callerUser := by
    unfold Table.Ordered
    decide +kernel
  refine .obj ordered fun f member => ?_
  simp only [holder, List.mem_cons, List.not_mem_nil, or_false] at member
  rcases member with rfl | rfl <;> exact .int (by unfold IsInt; decide)

/-- 2^53 is the double nearest to the id. -/
theorem holder_passes : Struct.toJson (Struct.ofJson holder.callerUser) =
    [("id", .double ⟨0x4340000000000000⟩), ("level", .int (-3))] := by
  have rounded : Double.ofInt 9007199254740993 = ⟨0x4340000000000000⟩ := by decide +kernel
  have kept : IsInt 9007199254740993 := by
    unfold IsInt
    decide
  have long : ¬ Whole 9007199254740993 := by decide
  have id : Value.crossed (.int 9007199254740993) = .double ⟨0x4340000000000000⟩ := by
    rw [Value.crossed_int, Value.numberJson_ofInt_long kept long, rounded]
  have short : Whole (-3) := by decide
  have level : Value.crossed (.int (-3)) = .int (-3) := by
    rw [Value.crossed_int, Value.numberJson_ofInt short]
  rw [Struct.toJson_ofJson_eq, holder, Table.mapValues, List.map_cons, List.map_cons, id, level]
  rfl

theorem holder_differs : ∃ direct tunnelled shown shown' : Inbound,
    direct.headers = holding.headers ∧ holding.message.inbound? "part" none = .ok tunnelled ∧
      Shows ⟨"ledger", "s"⟩ "fresh" direct shown ∧ Shows ⟨"ledger", "s"⟩ "fresh" tunnelled shown' ∧
      shown.currentContext.callerUser = [("id", .int 9007199254740993), ("level", .int (-3))] ∧
      shown'.currentContext.callerUser =
        [("id", .double ⟨0x4340000000000000⟩), ("level", .int (-3))] := by
  have accepted : (holding.message.inbound? "part" none).isOk = true := by decide +kernel
  obtain ⟨seen, seen', _⟩ := (user_agrees_iff_short holder.callerUser
    ⟨_, holder_plain.formed fun _ kept => kept⟩).2 ⟨"ledger", "s"⟩ holding "unsigned" false
      "Thu, 01 Jan 1970 00:00:00 GMT" rfl rfl holder_plain
  cases taken : holding.message.inbound? "part" none with
  | error e =>
    rw [taken] at accepted
    cases accepted
  | ok r =>
    obtain ⟨shown, shows, same⟩ := seen "fresh" { r with headers := holding.headers, context := none } rfl rfl
    obtain ⟨shown', shows', same'⟩ := seen' "fresh" "part" none holding.message.headers r (.refl _) taken
    exact ⟨_, r, shown, shown', rfl, rfl, shows, shows', same, same'.trans holder_passes⟩

/-- Not every integer of the claims stands at its place behind the tunnel. -/
theorem long_id_is_lost :
    ¬ ∀ claims : Fields, WellFormed (.obj claims) →
      (∀ place n, reach? place (.obj (Struct.toJson (Struct.ofJson claims))) = some (.int n) →
        reach? place (.obj claims) = some (.int n)) ∧
      (∀ place n, reach? place (.obj claims) = some (.int n) →
        reach? place (.obj (Struct.toJson (Struct.ofJson claims))) = some (.int n)) := by
  intro all
  have kept := (all holder.callerUser ⟨_, holder_plain.formed fun _ kept => kept⟩).2 [.field "id"]
    9007199254740993 rfl
  rw [holder_passes] at kept
  cases kept

end Claims
end Courier
