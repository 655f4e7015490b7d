import Courier.Outbound.Call
import Courier.Proofs.Outbound
import Courier.Proofs.Tunnel.Deadline
/-!
The time a call is given, from the caller's end to the other.  It leaves as text beside the message, rounded
down in the finest unit in which it can be written, and the trace headers that are added beside it leave it
alone.  So the other end always has a deadline, never a later one than the caller, and one that is earlier by
less than the unit.
-/
namespace Courier

open Rpc
open Http (Headers)

/-- What is written beside a message keeps the deadline that is there. -/
theorem Trace.get?_deadline_injectWithId (active : Option Span) (requestId : String) (h : Headers) :
    Headers.get? Deadline.header (injectWithId active requestId h) =
      Headers.get? Deadline.header h := by
  rw [injectWithId, Headers.get?_tryInsertText_of_ne (by decide), get?_inject_of_ne (by decide) (by decide)]

namespace Call

theorem get?_deadline_carriage? {c : Call} {limit : Nat} {g : Tunnel.Carriage} {text : String}
    (written : Deadline.write? c.timeout = some text) (carried : c.carriage? limit = some g) :
    g.metadata.get? Deadline.header = some (Text.utf8 text) := by
  rw [carriage?, written, Option.map_some] at carried
  obtain rfl := Option.some.inj carried
  exact (Trace.get?_deadline_injectWithId ..).trans (if_pos rfl)

/-- For every call of fewer than a hundred million hours there is a message, and beside it a text that the
other end reads as a deadline: the call's own if that has at most eight digits in nanoseconds, else one that
is earlier by less than the unit of the text. -/
theorem deadline_crosses (c : Call) (limit : Nat)
    (short : c.timeout.nanos < Deadline.hourLimit * TimeUnit.hour.nanos) :
    ∃ g text unit d, c.carriage? limit = some g ∧ g.metadata.text? Deadline.header = some text ∧
      Deadline.Crosses c.timeout text unit d ∧
      Tunnel.deadline? (Tunnel.framing ++ g.metadata) = .ok (some d) := by
  obtain ⟨text, unit, d, crosses⟩ := Deadline.exists_crosses short
  have denotes : Tunnel.Denotes (Text.utf8 text) d :=
    ⟨text, rfl, Deadline.denotes_of_parse crosses.accepted⟩
  obtain ⟨g, carried⟩ : ∃ g, c.carriage? limit = some g := by
    rw [carriage?, crosses.written]
    exact ⟨_, rfl⟩
  have entry := get?_deadline_carriage? crosses.written carried
  refine ⟨g, text, unit, d, carried, ?_, crosses, Tunnel.deadline?_of_denotes ?_ denotes⟩
  · rw [Headers.text?, entry, Option.bind_some]
    exact Http.visible?_iff.mpr ⟨denotes.visible, rfl⟩
  · -- the framing has other names
    exact entry

/-- A call that is given twelve seconds and a bit. -/
def hurried : Call where
  target := "ledger"
  request := { method := "GET", path := "/slow" }
  context := {}
  endpoint := ⟨"ledger", "http", "ledger", 8000, 8001, "v1"⟩
  headers := []
  claims := []
  timeout := ⟨12345678901⟩
  span := some ⟨1, 2, 1, ""⟩

theorem hurried_deadline_crosses :
    hurried.timeout.nanos < Deadline.hourLimit * TimeUnit.hour.nanos ∧
      ∃ g, hurried.carriage? 4096 = some g ∧
        g.metadata.text? Deadline.header = some "12345678u" ∧
        Deadline.Crosses hurried.timeout "12345678u" .micro ⟨12345678000⟩ ∧
        Tunnel.deadline? (Tunnel.framing ++ g.metadata) = .ok (some ⟨12345678000⟩) := by
  have short : hurried.timeout.nanos < Deadline.hourLimit * TimeUnit.hour.nanos := by decide
  obtain ⟨g, text, unit, d, carried, shown, crosses, read⟩ := deadline_crosses hurried 4096 short
  obtain rfl : "12345678u" = text :=
    Option.some.inj ((by decide : Deadline.write? hurried.timeout = _).symm.trans crosses.written)
  obtain rfl : unit = .micro := by
    obtain ⟨digits, same⟩ := crosses.counted
    have last : "12345678u".toList.getLast? = some 'u' := by decide
    rw [same, String.toList_ofList, List.getLast?_concat] at last
    have found := TimeUnit.ofSymbol?_iff.mpr (Option.some.inj last)
    exact Option.some.inj (found.symm.trans (by decide))
  obtain rfl : d = ⟨12345678000⟩ :=
    Deadline.Reading.span.inj (crosses.accepted.symm.trans (by decide))
  exact ⟨short, g, carried, shown, crosses, read⟩

end Call
end Courier
