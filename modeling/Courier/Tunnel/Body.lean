import Courier.Json.Parser
import Courier.Json.Printer
/-!
Body fields as the tunnel carries them: the JSON text of each value.  A text that is not JSON stands for
itself as a string.  Here are `encode_body_fields` and `decode_body_fields`.
-/
namespace Courier.Tunnel

def encodeFields (payload : Fields) : Table String := Table.mapValues Json.text payload

def decodeField (raw : String) : Json := (Json.parseText? raw).getD (.str raw)

def decodeFields (fields : Table String) : Fields := Table.mapValues decodeField fields

end Courier.Tunnel
