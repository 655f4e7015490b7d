import Courier.Client.Surroundings
import Courier.Tunnel.Execution
import Courier.Wire.Message
/-!
A call of the tunnel from one end to the other.  Each end has a limit on the length of messages, and
refuses to write or read a longer one; the caller hears of that as of any other status.  The two ends
are `send` of `TunneledTransport` and `dispatch` of `DispatchGrpcService`.
-/
namespace Courier.Tunnel

/-- The refusal of a message that is too long. -/
def oversized (doing : String) (length limit : Nat) : Rpc.Status :=
  .plain .outOfRange ("Error, " ++ doing ++ " message length too large: found " ++ toString length
    ++ " bytes, the limit is: " ++ toString limit ++ " bytes")

/-- The way of a message from the end that writes it to the end that reads it. -/
def passage (length writing reading : Nat) : Except Rpc.Status Unit :=
  if writing < length then .error (oversized "encoded" length writing)
  else if reading < length then .error (oversized "decoded" length reading)
  else .ok ()

/-- The end of the tunnel that answers calls. -/
structure Host (σ : Type) where
  service : Service σ
  messageLimit : Nat
  /-- Stands between the parts of a body that has parts. -/
  boundary : String

structure Exchange (σ : Type) where
  delivery : Delivery
  /-- What the other end did, if the message got there. -/
  execution : Option (Execution σ)

/-- What the caller hears of a call that ended at the other end.  One that ends without a word is
waited for in vain. -/
def deliveryOf (elapsed : Duration) (writing reading : Nat) : CallEnd → Delivery
  | .answered reply =>
    match passage (Wire.encodeReply reply).length writing reading with
    | .ok _ => .answered reply
    | .error status => .ended status elapsed
  | .failed status => .ended status elapsed
  | _ => .timedOut

/-- Carry a message to a host at `now`.  The caller stays until its time is up. -/
def exchange {σ : Type} (host : Host σ) (now : Instant) (peer : Option String) (c : Carriage)
    (tracker : Tracker) (world : σ) : Exchange σ :=
  match passage (Wire.encodeMessage c.message).length c.messageLimit host.messageLimit with
  | .error status => ⟨.ended status .zero, none⟩
  | .ok _ =>
    let e := execute host.service host.boundary now (framing ++ c.metadata) peer c.message
      (some c.timeout) tracker world
    ⟨deliveryOf e.elapsed host.messageLimit c.messageLimit e.ending, some e⟩

end Courier.Tunnel
