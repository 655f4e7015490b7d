import Courier.Tunnel.Message
import Courier.Wire.Struct
/-!
Tunnel messages on the wire.  Empty fields are left out, inside map entries as well; reading merges what
occurs more than once, and the last entry of a name wins.  The messages are `TunneledRequest` and
`TunneledResponse`, field by field as their schema numbers them.
-/
namespace Courier.Wire

open Tunnel (Message)

def textEntry (tag : Nat) (e : String × String) : Bytes :=
  bytesField tag (textOrNone 1 e.1 ++ textOrNone 2 e.2)

def encodeFile (f : File) : Bytes :=
  textOrNone 1 f.name ++ textOrNone 2 f.contentType ++ bytesOrNone 3 f.content

def encodeFiles (files : List File) : Bytes := files.flatMap fun f => bytesField 1 (encodeFile f)

def filesEntry (tag : Nat) (e : String × List File) : Bytes :=
  bytesField tag (textOrNone 1 e.1 ++ bytesOrNone 2 (encodeFiles e.2))

def claimsField (tag : Nat) : Option Struct → Bytes
  | none => []
  | some s => bytesField tag (encodeStruct s)

def encodeMessage (m : Message) : Bytes :=
  textOrNone 1 m.method ++ bytesOrNone 2 m.endpoint ++ m.headers.flatMap (textEntry 3)
    ++ claimsField 4 m.user ++ claimsField 5 m.service ++ textOrNone 6 m.requestId
    ++ m.body.flatMap (textEntry 7) ++ m.files.flatMap (filesEntry 8)

def encodeReply (r : Tunnel.Reply) : Bytes :=
  bytesOrNone 1 r.body
    ++ if r.statusCode == 0 then [] else key 2 .varint ++ varint (wordOfInt r.statusCode)

/-- An entry of two texts. -/
def textPair? (budget : Nat) (b : Bytes) : Option (String × String) :=
  match budget with
  | 0 => none
  | budget + 1 =>
    (items? [] budget b).bind fun items =>
      items.foldlM (fun kv item =>
        match item.tag with
        | 1 => (textPayload? item.payload).map fun k => (k, kv.2)
        | 2 => (textPayload? item.payload).map fun v => (kv.1, v)
        | _ => skipUnknown budget kv) ("", "")

def readFile? (budget : Nat) (b : Bytes) : Option File :=
  match budget with
  | 0 => none
  | budget + 1 =>
    (items? [] budget b).bind fun items =>
      items.foldlM (fun f item =>
        match item.tag, item.payload with
        | 1, p => (textPayload? p).map fun s => { f with name := s }
        | 2, p => (textPayload? p).map fun s => { f with contentType := s }
        | 3, .bytes c => some { f with content := c }
        | 3, _ => none
        | _, _ => skipUnknown budget f) (⟨"", "", []⟩ : File)

def mergeFiles? (budget : Nat) (files : List File) (b : Bytes) : Option (List File) :=
  match budget with
  | 0 => none
  | budget + 1 =>
    (items? [] budget b).bind fun items =>
      items.foldlM (fun fs item =>
        match item.tag, item.payload with
        | 1, .bytes f => (readFile? budget f).map fun f => fs ++ [f]
        | 1, _ => none
        | _, _ => skipUnknown budget fs) files

def filesPair? (budget : Nat) (b : Bytes) : Option (String × List File) :=
  match budget with
  | 0 => none
  | budget + 1 =>
    (items? [] budget b).bind fun items =>
      items.foldlM (fun kv item =>
        match item.tag, item.payload with
        | 1, p => (textPayload? p).map fun k => (k, kv.2)
        | 2, .bytes l => (mergeFiles? budget kv.2 l).map fun l => (kv.1, l)
        | 2, _ => none
        | _, _ => skipUnknown budget kv) ("", ([] : List File))

/-- Tags of the maps of a message. -/
def messageMaps : List Nat := [3, 7, 8]

def mergeItem (m : Message) (item : Item) : Option Message :=
  match item.tag, item.payload with
  | 1, p => (textPayload? p).map fun s => { m with method := s }
  | 2, .bytes b => some { m with endpoint := b }
  | 3, .entry e => (textPair? nestingLimit e).map fun kv =>
    { m with headers := Table.insert kv.1 kv.2 m.headers }
  | 4, .bytes b => (mergeStruct nestingLimit (m.user.getD []) b).map fun s =>
    { m with user := some s }
  | 5, .bytes b => (mergeStruct nestingLimit (m.service.getD []) b).map fun s =>
    { m with service := some s }
  | 6, p => (textPayload? p).map fun s => { m with requestId := s }
  | 7, .entry e => (textPair? nestingLimit e).map fun kv =>
    { m with body := Table.insert kv.1 kv.2 m.body }
  | 8, .entry e => (filesPair? nestingLimit e).map fun kv =>
    { m with files := Table.insert kv.1 kv.2 m.files }
  | n, _ => if n ≤ 8 then none else some m

def decodeMessage? (b : Bytes) : Option Message :=
  (items? messageMaps nestingLimit b).bind fun items => items.foldlM mergeItem Message.empty

def mergeReplyItem (r : Tunnel.Reply) (item : Item) : Option Tunnel.Reply :=
  match item.tag, item.payload with
  | 1, .bytes b => some { r with body := b }
  | 2, .varint n => some { r with statusCode := int32OfWord n }
  | n, _ => if n ≤ 2 then none else some r

def decodeReply? (b : Bytes) : Option Tunnel.Reply :=
  (items? [] nestingLimit b).bind fun items => items.foldlM mergeReplyItem ⟨[], 0⟩

end Courier.Wire
