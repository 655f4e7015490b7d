import Courier.Rpc.Status
import Courier.Proofs.Text
/-!
Which statuses of a remote call let a request go over HTTP after all: a refused connection, and what is
taken for a peer that does not speak the tunnel's protocol.  The code and the wording of a status decide
it, not where the status comes from.
-/
namespace Courier

/-- A status is read off its own number. -/
theorem Http.Status.ofNat?_code (s : Http.Status) : ofNat? s.code = some s :=
  dif_pos ⟨s.hundred_le, s.code_lt⟩

namespace Rpc.Status

/-- A status that no error lies below refuses a connection only as `unavailable`. -/
theorem plain_isConnectionRefused {code : Code} (h : code ≠ .unavailable) (message : String) :
    (plain code message).isConnectionRefused = false := by
  simp [isConnectionRefused, plain, h]

theorem responseFault_allowsFallback (service : String) (s : Status) :
    (responseFault service s).allowsFallback = false := by
  unfold responseFault
  split
  · split <;> rfl
  · rfl

/-- The other codes have a fault of their own, and no message of theirs breaks the protocol. -/
theorem fault_allowsFallback (service : String) (s : Status) (deadline : Option Duration)
    (elapsed : Duration) :
    (s.fault service deadline elapsed).allowsFallback =
      (s.isConnectionRefused || s.isProtocolFailure) := by
  unfold fault
  cases refused : s.isConnectionRefused with
  | true => rfl
  | false =>
    simp only [Bool.false_eq_true, if_false, Bool.false_or]
    split
    · next code => simp [isProtocolFailure, code, Fault.allowsFallback]
    · next code => simp [isProtocolFailure, code, Fault.allowsFallback]
    · next code =>
      have unbroken : s.isProtocolFailure = false := by simp [isProtocolFailure, code]
      rw [unbroken]
      split
      · split
        · rfl
        · exact responseFault_allowsFallback service s
      · exact responseFault_allowsFallback service s
    · cases broken : s.isProtocolFailure with
      | true => rfl
      | false => exact responseFault_allowsFallback service s

theorem plain_fault_allowsFallback {code : Code} (h : code ≠ .unavailable) (message service : String)
    (deadline : Option Duration) (elapsed : Duration) :
    ((plain code message).fault service deadline elapsed).allowsFallback =
      (plain code message).isProtocolFailure := by
  rw [fault_allowsFallback, plain_isConnectionRefused h, Bool.false_or]

/-- The missing route is told apart by the opening of its message. -/
theorem unregistered_isProtocolFailure (rest : String) :
    (plain .unimplemented (unregisteredEndpoint ++ rest)).isProtocolFailure = false := by
  have opening : Text.startsWith (Text.lower unregisteredEndpoint) unregisteredEndpoint = true := by
    decide
  have found := Text.startsWith_append opening (Text.lower rest)
  simp only [isProtocolFailure, plain, Text.lower_append, found, Bool.not_true]

/-- A complaint about a message that could not be taken in is no complaint about its framing. -/
theorem invalid_isProtocolFailure (rest : String) :
    (plain .invalidArgument ("invalid " ++ rest)).isProtocolFailure = false := by
  have text : (Text.lower ("invalid " ++ rest)).toList.head? = some 'i' := by
    rw [Text.lower_append, String.toList_append]
    rfl
  have opening : framingRejected.toList.head? = some 'f' := rfl
  exact Text.startsWith_of_head text opening (by decide)

/-- Codes other than these two have one fault, whatever the time, unless the words of the message break
the protocol; and the fault has the status of the code. -/
theorem plain_fault_status {code : Code} (failed : code ≠ .ok) (running : code ≠ .cancelled)
    {message : String} (unbroken : (plain code message).isProtocolFailure = false) (service : String)
    (deadline : Option Duration) (elapsed : Duration) :
    httpStatus? code.number = some ((plain code message).fault service deadline elapsed).status.code := by
  by_cases gone : code = .unavailable
  · subst gone
    unfold fault
    split <;> rfl
  · unfold fault
    rw [plain_isConnectionRefused gone, unbroken]
    cases code with
    | ok => exact absurd rfl failed
    | cancelled => exact absurd rfl running
    | unavailable => exact absurd rfl gone
    | _ => rfl

end Rpc.Status
end Courier
