import Courier.Wire.Message
import Courier.Proofs.Wire.Struct
/-!
Messages of the tunnel on the wire, read back.  The fields of a message are taken in turn, each on top of
what came before; a field that is left out finds its default already there.  The entries of maps may be
written in any order, since reading puts them in their places.  What is read is the message that was meant,
unless its structs nest deeper than a reader goes.
-/
namespace Courier.Wire

open Tunnel (Message)

/-! ### Entries and files -/

def pairStep (budget : Nat) (kv : String × String) (item : Item) : Option (String × String) :=
  match item.tag with
  | 1 => (textPayload? item.payload).map fun k => (k, kv.2)
  | 2 => (textPayload? item.payload).map fun v => (kv.1, v)
  | _ => skipUnknown budget kv

theorem textPair?_written {b : Bytes} {items : List Item} (written : Written [] b items) (budget : Nat) :
    textPair? (budget + 1) b = items.foldlM (pairStep budget) ("", "") := by
  unfold textPair?
  dsimp only
  rw [written.items? budget]
  rfl

theorem textPair?_encode {k v : String} (fits : Fits (textOrNone 1 k ++ textOrNone 2 v)) (budget : Nat) :
    textPair? (budget + 1) (textOrNone 1 k ++ textOrNone 2 v) = some (k, v) := by
  have written : Written [] (textOrNone 1 k ++ textOrNone 2 v)
      (presentItem 1 (Text.utf8 k) ++ presentItem 2 (Text.utf8 v)) :=
    (written_bytesOrNone (.ofSmall (by decide)) (Fits.present fits.left) rfl).append
      (written_bytesOrNone (.ofSmall (by decide)) (Fits.present fits.right) rfl)
  have name : (presentItem 1 (Text.utf8 k)).foldlM (pairStep budget) ("", "") = some (k, "") :=
    foldlM_text (fun k => (k, "")) (fun k => by simp only [pairStep, textPayload?_utf8, Option.map_some]) k
  have value : (presentItem 2 (Text.utf8 v)).foldlM (pairStep budget) (k, "") = some (k, v) :=
    foldlM_text (fun v => (k, v)) (fun v => by simp only [pairStep, textPayload?_utf8, Option.map_some]) v
  rw [textPair?_written written, foldlM_append_of name, value]

def fileStep (budget : Nat) (f : File) (item : Item) : Option File :=
  match item.tag, item.payload with
  | 1, p => (textPayload? p).map fun s => { f with name := s }
  | 2, p => (textPayload? p).map fun s => { f with contentType := s }
  | 3, .bytes c => some { f with content := c }
  | 3, _ => none
  | _, _ => skipUnknown budget f

theorem readFile?_written {b : Bytes} {items : List Item} (written : Written [] b items) (budget : Nat) :
    readFile? (budget + 1) b = items.foldlM (fileStep budget) ⟨"", "", []⟩ := by
  unfold readFile?
  dsimp only
  rw [written.items? budget]
  rfl

theorem readFile?_encode {f : File} (fits : Fits (encodeFile f)) (budget : Nat) :
    readFile? (budget + 1) (encodeFile f) = some f := by
  have written : Written [] (encodeFile f) (presentItem 1 (Text.utf8 f.name) ++
      presentItem 2 (Text.utf8 f.contentType) ++ presentItem 3 f.content) :=
    ((written_bytesOrNone (.ofSmall (by decide)) (Fits.present fits.left.left) rfl).append
      (written_bytesOrNone (.ofSmall (by decide)) (Fits.present fits.left.right) rfl)).append
      (written_bytesOrNone (.ofSmall (by decide)) (Fits.present fits.right) rfl)
  have name : (presentItem 1 (Text.utf8 f.name)).foldlM (fileStep budget) ⟨"", "", []⟩ =
      some ⟨f.name, "", []⟩ :=
    foldlM_text (fun s => File.mk s "" [])
      (fun s => by simp only [fileStep, textPayload?_utf8, Option.map_some]) _
  have type : (presentItem 2 (Text.utf8 f.contentType)).foldlM (fileStep budget) ⟨f.name, "", []⟩ =
      some ⟨f.name, f.contentType, []⟩ :=
    foldlM_text (fun s => File.mk f.name s [])
      (fun s => by simp only [fileStep, textPayload?_utf8, Option.map_some]) _
  have content : (presentItem 3 f.content).foldlM (fileStep budget) ⟨f.name, f.contentType, []⟩ = some f :=
    foldlM_bytes (fun c => File.mk f.name f.contentType c) (fun _ => rfl) _
  rw [readFile?_written written, List.append_assoc, foldlM_append_of name, foldlM_append_of type, content]

def fileItem (f : File) : Item := ⟨1, .bytes (encodeFile f)⟩

theorem written_files {files : List File} (fits : Fits (encodeFiles files)) :
    Written [] (encodeFiles files) (files.map fileItem) :=
  .map fun _ member => written_bytesField (.ofSmall (by decide)) (fits.of_mem member).content rfl

def filesStep (budget : Nat) (fs : List File) (item : Item) : Option (List File) :=
  match item.tag, item.payload with
  | 1, .bytes f => (readFile? budget f).map fun f => fs ++ [f]
  | 1, _ => none
  | _, _ => skipUnknown budget fs

theorem mergeFiles?_written {b : Bytes} {items : List Item} (written : Written [] b items) (budget : Nat)
    (files : List File) : mergeFiles? (budget + 1) files b = items.foldlM (filesStep budget) files := by
  unfold mergeFiles?
  dsimp only
  rw [written.items? budget]
  rfl

theorem mergeFiles?_encode {files : List File} (fits : Fits (encodeFiles files)) (budget : Nat) :
    mergeFiles? (budget + 2) [] (encodeFiles files) = some files := by
  have taken : ∀ (rest before : List File), (∀ f ∈ rest, Fits (encodeFile f)) →
      (rest.map fileItem).foldlM (filesStep (budget + 1)) before = some (before ++ rest) := by
    intro rest
    induction rest with
    | nil => simp
    | cons f rest ih =>
      intro before each
      have read : filesStep (budget + 1) before (fileItem f) = some (before ++ [f]) := by
        simp only [filesStep, fileItem, readFile?_encode (each f (List.mem_cons_self ..)), Option.map_some]
      rw [List.map_cons, List.foldlM_cons, read, Option.bind_eq_bind, Option.bind_some,
        ih _ fun g member => each g (List.mem_cons_of_mem _ member), List.append_assoc]
      rfl
  rw [mergeFiles?_written (written_files fits),
    taken files [] fun f member => (fits.of_mem member).content]
  rfl

def filesPairStep (budget : Nat) (kv : String × List File) (item : Item) : Option (String × List File) :=
  match item.tag, item.payload with
  | 1, p => (textPayload? p).map fun k => (k, kv.2)
  | 2, .bytes l => (mergeFiles? budget kv.2 l).map fun l => (kv.1, l)
  | 2, _ => none
  | _, _ => skipUnknown budget kv

theorem filesPair?_written {b : Bytes} {items : List Item} (written : Written [] b items) (budget : Nat) :
    filesPair? (budget + 1) b = items.foldlM (filesPairStep budget) ("", []) := by
  unfold filesPair?
  dsimp only
  rw [written.items? budget]
  rfl

theorem filesPair?_encode {k : String} {files : List File}
    (fits : Fits (textOrNone 1 k ++ bytesOrNone 2 (encodeFiles files))) (budget : Nat) :
    filesPair? (budget + 3) (textOrNone 1 k ++ bytesOrNone 2 (encodeFiles files)) = some (k, files) := by
  have written : Written [] (textOrNone 1 k ++ bytesOrNone 2 (encodeFiles files))
      (presentItem 1 (Text.utf8 k) ++ presentItem 2 (encodeFiles files)) :=
    (written_bytesOrNone (.ofSmall (by decide)) (Fits.present fits.left) rfl).append
      (written_bytesOrNone (.ofSmall (by decide)) (Fits.present fits.right) rfl)
  have name : (presentItem 1 (Text.utf8 k)).foldlM (filesPairStep (budget + 2)) ("", []) = some (k, []) :=
    foldlM_text (fun k => (k, []))
      (fun k => by simp only [filesPairStep, textPayload?_utf8, Option.map_some]) k
  have merged := mergeFiles?_encode (Fits.present fits.right) budget
  have list : (presentItem 2 (encodeFiles files)).foldlM (filesPairStep (budget + 2)) (k, []) =
      some (k, files) := by
    refine foldlM_presentItem (fun empty => ?_) ?_
    · rw [empty] at merged
      rw [Option.some.inj (show some [] = some files from merged)]
    · simp only [filesPairStep, merged, Option.map_some]
  rw [filesPair?_written written, foldlM_append_of name, list]

/-! ### A message -/

def textItem (tag : Nat) (e : String × String) : Item := ⟨tag, .entry (textOrNone 1 e.1 ++ textOrNone 2 e.2)⟩

def filesItem (e : String × List File) : Item :=
  ⟨8, .entry (textOrNone 1 e.1 ++ bytesOrNone 2 (encodeFiles e.2))⟩

def claimsItems (tag : Nat) : Option Struct → List Item
  | none => []
  | some s => [⟨tag, .bytes (encodeStruct s)⟩]

theorem written_claims {maps : List Nat} {tag : Nat} (valid : IsTag tag) {claims : Option Struct}
    (fits : Fits (claimsField tag claims)) (single : maps.contains tag = false) :
    Written maps (claimsField tag claims) (claimsItems tag claims) := by
  cases claims with
  | none => exact .nil
  | some s => exact written_bytesField valid fits.content single

/-- The fields of a message, in the order of their tags. -/
def messageItems (m : Message) : List Item :=
  presentItem 1 (Text.utf8 m.method) ++ presentItem 2 m.endpoint ++ m.headers.map (textItem 3)
    ++ claimsItems 4 m.user ++ claimsItems 5 m.service ++ presentItem 6 (Text.utf8 m.requestId)
    ++ m.body.map (textItem 7) ++ m.files.map filesItem

theorem written_texts {tag : Nat} (valid : IsTag tag) (map : messageMaps.contains tag = true)
    {l : List (String × String)} (fits : Fits (l.flatMap (textEntry tag))) :
    Written messageMaps (l.flatMap (textEntry tag)) (l.map (textItem tag)) :=
  .map fun _ member => written_entry valid (fits.of_mem member).content map

/-- Each field of a message fits, since the message does. -/
structure FieldsFit (m : Message) : Prop where
  method : Fits (textOrNone 1 m.method)
  endpoint : Fits (bytesOrNone 2 m.endpoint)
  headers : Fits (m.headers.flatMap (textEntry 3))
  user : Fits (claimsField 4 m.user)
  service : Fits (claimsField 5 m.service)
  requestId : Fits (textOrNone 6 m.requestId)
  body : Fits (m.body.flatMap (textEntry 7))
  files : Fits (m.files.flatMap (filesEntry 8))

theorem fieldsFit {m : Message} (fits : Fits (encodeMessage m)) : FieldsFit m := by
  unfold encodeMessage at fits
  have upToBody := fits.left
  have upToService := upToBody.left.left
  have upToHeaders := upToService.left.left
  exact ⟨upToHeaders.left.left, upToHeaders.left.right, upToHeaders.right, upToService.left.right,
    upToService.right, upToBody.left.right, upToBody.right, fits.right⟩

theorem written_message {m : Message} (fits : FieldsFit m) :
    Written messageMaps (encodeMessage m) (messageItems m) := by
  unfold encodeMessage
  refine .append (.append (.append (.append (.append (.append (.append ?_ ?_) ?_) ?_) ?_) ?_) ?_) ?_
  · exact written_bytesOrNone (.ofSmall (by decide)) (Fits.present fits.method) rfl
  · exact written_bytesOrNone (.ofSmall (by decide)) (Fits.present fits.endpoint) rfl
  · exact written_texts (.ofSmall (by decide)) rfl fits.headers
  · exact written_claims (.ofSmall (by decide)) fits.user rfl
  · exact written_claims (.ofSmall (by decide)) fits.service rfl
  · exact written_bytesOrNone (.ofSmall (by decide)) (Fits.present fits.requestId) rfl
  · exact written_texts (.ofSmall (by decide)) rfl fits.body
  · exact .map fun _ member => written_entry (.ofSmall (by decide)) (fits.files.of_mem member).content rfl

/-! ### Reading a message -/

/-- Entries in any order make their table. -/
theorem foldlM_table {α β : Type} {step : β → Item → Option β} {item : String × α → Item}
    (put : Table α → β) {l : List (String × α)} {t : Table α} (order : l.Perm t) (ordered : Table.Ordered t)
    (reads : ∀ t, ∀ e ∈ l, step (put t) (item e) = some (put (Table.insert e.1 e.2 t))) :
    (l.map item).foldlM step (put []) = some (put t) := by
  have taken : ∀ (rest : List (String × α)) (before : Table α), (∀ e ∈ rest, e ∈ l) →
      (rest.map item).foldlM step (put before) =
        some (put (rest.foldl (fun t e => Table.insert e.1 e.2 t) before)) := by
    intro rest
    induction rest with
    | nil => exact fun _ _ => rfl
    | cons e rest ih =>
      intro before among
      rw [List.map_cons, List.foldlM_cons, reads before e (among e (List.mem_cons_self ..)),
        Option.bind_eq_bind, Option.bind_some, ih _ fun x member => among x (List.mem_cons_of_mem _ member)]
      rfl
  rw [taken l [] fun _ member => member]
  exact congrArg (fun t => some (put t)) (Table.ofList_of_perm order ordered)

def claimsDepth : Option Struct → Nat
  | none => 0
  | some s => structDepth s

/-- How deep messages nest in the structs of a message. -/
def messageDepth (m : Message) : Nat := max (claimsDepth m.user) (claimsDepth m.service)

/-- Claims make their struct, unless they nest too deep. -/
theorem foldlM_claims {β : Type} {step : β → Item → Option β} {tag : Nat} (put : Option Struct → β)
    {written claims : Option Struct} (arranged : Option.Rel ArrangedStruct written claims)
    (sound : ∀ s, claims = some s → SoundStruct s) (fits : Fits (claimsField tag written))
    (reads : ∀ b, step (put none) ⟨tag, .bytes b⟩ =
      (mergeStruct nestingLimit [] b).map fun s => put (some s)) :
    (claimsItems tag written).foldlM step (put none) =
      if claimsDepth claims ≤ nestingLimit then some (put claims) else none := by
  cases arranged with
  | none => rfl
  | some entries =>
    rw [claimsItems, foldlM_one, reads, mergeStruct_encode entries (sound _ rfl) fits.content, map_guarded]
    rfl

/-- The message is written with the entries of its maps in some order, at every depth. -/
structure ArrangedMessage (w m : Message) : Prop where
  method : w.method = m.method
  endpoint : w.endpoint = m.endpoint
  headers : w.headers.Perm m.headers
  user : Option.Rel ArrangedStruct w.user m.user
  service : Option.Rel ArrangedStruct w.service m.service
  requestId : w.requestId = m.requestId
  body : w.body.Perm m.body
  files : w.files.Perm m.files

/-- All maps of the message are tables, and its structs are sound. -/
structure SoundMessage (m : Message) : Prop where
  headers : Table.Ordered m.headers
  user : ∀ s, m.user = some s → SoundStruct s
  service : ∀ s, m.service = some s → SoundStruct s
  body : Table.Ordered m.body
  files : Table.Ordered m.files

section

variable {m : Message}

theorem read_method (blank : m.method = "") (s : String) :
    (presentItem 1 (Text.utf8 s)).foldlM mergeItem m = some { m with method := s } := by
  cases m
  cases blank
  refine foldlM_text (fun s => Message.mk s _ _ _ _ _ _ _) (fun s => ?_) s
  simp only [mergeItem, textPayload?_utf8, Option.map_some]

theorem read_endpoint (blank : m.endpoint = []) (b : Bytes) :
    (presentItem 2 b).foldlM mergeItem m = some { m with endpoint := b } := by
  cases m
  cases blank
  exact foldlM_bytes (fun b => Message.mk _ b _ _ _ _ _ _) (fun _ => rfl) b

theorem read_requestId (blank : m.requestId = "") (s : String) :
    (presentItem 6 (Text.utf8 s)).foldlM mergeItem m = some { m with requestId := s } := by
  cases m
  cases blank
  refine foldlM_text (fun s => Message.mk _ _ _ _ _ s _ _) (fun s => ?_) s
  simp only [mergeItem, textPayload?_utf8, Option.map_some]

/-- One entry of a map of texts, as it is read. -/
theorem read_textEntry {tag : Nat} {l : List (String × String)} (fits : Fits (l.flatMap (textEntry tag)))
    {e : String × String} (member : e ∈ l) :
    textPair? nestingLimit (textOrNone 1 e.1 ++ textOrNone 2 e.2) = some e :=
  textPair?_encode (fits.of_mem member).content 99

section

variable {l : List (String × String)} {t : Table String} (order : l.Perm t) (ordered : Table.Ordered t)
include order ordered

theorem read_headers (blank : m.headers = []) (fits : Fits (l.flatMap (textEntry 3))) :
    (l.map (textItem 3)).foldlM mergeItem m = some { m with headers := t } := by
  cases m
  cases blank
  refine foldlM_table (fun t => Message.mk _ _ t _ _ _ _ _) order ordered fun t e member => ?_
  simp only [mergeItem, textItem, read_textEntry fits member, Option.map_some]

theorem read_body (blank : m.body = []) (fits : Fits (l.flatMap (textEntry 7))) :
    (l.map (textItem 7)).foldlM mergeItem m = some { m with body := t } := by
  cases m
  cases blank
  refine foldlM_table (fun t => Message.mk _ _ _ _ _ _ t _) order ordered fun t e member => ?_
  simp only [mergeItem, textItem, read_textEntry fits member, Option.map_some]

end

theorem read_files (blank : m.files = []) {l : List (String × List File)} {t : Table (List File)}
    (order : l.Perm t) (ordered : Table.Ordered t) (fits : Fits (l.flatMap (filesEntry 8))) :
    (l.map filesItem).foldlM mergeItem m = some { m with files := t } := by
  cases m
  cases blank
  refine foldlM_table (fun t => Message.mk _ _ _ _ _ _ _ t) order ordered fun t e member => ?_
  have pair : filesPair? nestingLimit (textOrNone 1 e.1 ++ bytesOrNone 2 (encodeFiles e.2)) = some e :=
    filesPair?_encode (fits.of_mem member).content 97
  simp only [mergeItem, filesItem, pair, Option.map_some]

section

variable {written claims : Option Struct} (arranged : Option.Rel ArrangedStruct written claims)
  (sound : ∀ s, claims = some s → SoundStruct s)
include arranged sound

theorem read_user (blank : m.user = none) (fits : Fits (claimsField 4 written)) :
    (claimsItems 4 written).foldlM mergeItem m =
      if claimsDepth claims ≤ nestingLimit then some { m with user := claims } else none := by
  cases m
  cases blank
  exact foldlM_claims (fun c => Message.mk _ _ _ c _ _ _ _) arranged sound fits fun _ => rfl

theorem read_service (blank : m.service = none) (fits : Fits (claimsField 5 written)) :
    (claimsItems 5 written).foldlM mergeItem m =
      if claimsDepth claims ≤ nestingLimit then some { m with service := claims } else none := by
  cases m
  cases blank
  exact foldlM_claims (fun c => Message.mk _ _ _ _ c _ _ _) arranged sound fits fun _ => rfl

end

end

/-- What comes after the claims is read whatever they are. -/
theorem read_rest {x : Message} (fresh : x.requestId = "" ∧ x.body = [] ∧ x.files = []) {w m : Message}
    (arranged : ArrangedMessage w m) (sound : SoundMessage m) (fits : FieldsFit w) :
    (presentItem 6 (Text.utf8 m.requestId) ++ (w.body.map (textItem 7) ++ w.files.map filesItem)).foldlM
      mergeItem x = some { x with requestId := m.requestId, body := m.body, files := m.files } := by
  rw [foldlM_append_of (read_requestId fresh.1 m.requestId)]
  refine (foldlM_append_of (read_body arranged.body sound.body ?_ fits.body)).trans ?_
  · exact fresh.2.1
  · refine read_files ?_ arranged.files sound.files fits.files
    exact fresh.2.2

/-- The fields that a message is written as make it up again, one after the other. -/
theorem decodeMessage?_encode {w m : Message} (arranged : ArrangedMessage w m) (sound : SoundMessage m)
    (whole : Fits (encodeMessage w)) :
    decodeMessage? (encodeMessage w) = if messageDepth m ≤ nestingLimit then some m else none := by
  have fits := fieldsFit whole
  unfold decodeMessage?
  rw [(written_message fits).items? nestingLimit, Option.bind_some]
  unfold messageItems
  simp only [List.append_assoc, arranged.method, arranged.endpoint, arranged.requestId]
  rw [foldlM_append_of (read_method rfl _), foldlM_append_of (read_endpoint rfl _),
    foldlM_append_of (read_headers arranged.headers sound.headers rfl fits.headers),
    foldlM_append_guarded (read_user arranged.user sound.user rfl fits.user)
      (foldlM_append_last (read_service arranged.service sound.service rfl fits.service)
        (read_rest ⟨rfl, rfl, rfl⟩ arranged sound fits))]
  simp only [messageDepth, max_le_iff]

/-! ### A reply -/

def statusItem (n : Int) : List Item := if n == 0 then [] else [⟨2, .varint (wordOfInt n)⟩]

theorem written_reply {r : Tunnel.Reply} (fits : Fits (encodeReply r)) :
    Written [] (encodeReply r) (presentItem 1 r.body ++ statusItem r.statusCode) := by
  unfold encodeReply at fits ⊢
  refine .append (written_bytesOrNone (.ofSmall (by decide)) (Fits.present fits.left) rfl) ?_
  unfold statusItem
  split
  · exact .nil
  · exact written_varint (.ofSmall (by decide)) (wordOfInt_lt _) rfl

theorem decodeReply?_encode {r : Tunnel.Reply} (signed : Word.isSigned32 r.statusCode = true)
    (fits : Fits (encodeReply r)) : decodeReply? (encodeReply r) = some r := by
  have body : (presentItem 1 r.body).foldlM mergeReplyItem ⟨[], 0⟩ = some ⟨r.body, 0⟩ :=
    foldlM_bytes (fun b => Tunnel.Reply.mk b 0) (fun _ => rfl) _
  unfold decodeReply?
  rw [(written_reply fits).items? nestingLimit, Option.bind_some, foldlM_append_of body]
  unfold statusItem
  split
  · next zero =>
    rw [beq_iff_eq] at zero
    rw [← zero]
    rfl
  · rw [foldlM_one]
    simp only [mergeReplyItem, int32OfWord_wordOfInt signed]

/-- Whatever message is meant and in whatever order the entries of its maps are written, what is read is the
message, exactly if its structs nest no deeper than a reader goes; and every reply is read as it is. -/
theorem wire_round_trip :
    (∀ w m : Message, ArrangedMessage w m → SoundMessage m → Fits (encodeMessage w) →
      (decodeMessage? (encodeMessage w) = some m ↔ messageDepth m ≤ nestingLimit)) ∧
    ∀ r : Tunnel.Reply, Word.isSigned32 r.statusCode = true → Fits (encodeReply r) →
      decodeReply? (encodeReply r) = some r := by
  refine ⟨fun w m arranged sound fits => ?_, fun r signed fits => decodeReply?_encode signed fits⟩
  rw [decodeMessage?_encode arranged sound fits]
  split
  · next shallow => exact ⟨fun _ => shallow, fun _ => rfl⟩
  · next deep => exact ⟨nofun, fun shallow => absurd shallow deep⟩

/-- A message in which much is at its default: a name, a text, a list of files, a file, a value without a
kind; and a number that is none. -/
def sparse : Message where
  method := "POST"
  endpoint := []
  headers := [("", "x"), ("accept", "")]
  user := some [("", .unset), ("rank", .list [.null (-1), .number .nan, .bool false])]
  service := some []
  requestId := ""
  body := [("", "")]
  files := [("", []), ("scan", [⟨"", "", []⟩])]

/-- The same message, its entries in another order. -/
def sparseReversed : Message :=
  { sparse with
    headers := [("accept", ""), ("", "x")]
    user := some [("rank", .list [.null (-1), .number .nan, .bool false]), ("", .unset)]
    files := [("scan", [⟨"", "", []⟩]), ("", [])] }

theorem sparse_arranged : ArrangedMessage sparseReversed sparse where
  method := rfl
  endpoint := rfl
  headers := .swap ..
  user := .some (.of_perm (.swap ..))
  service := .some (.of_perm (.refl _))
  requestId := rfl
  body := .refl _
  files := .swap ..

theorem sparse_sound : SoundMessage sparse where
  headers := by unfold Table.Ordered; decide +kernel
  user := by
    rintro s ⟨⟩
    refine ⟨by unfold Table.Ordered; decide +kernel, trivial, ⟨rfl, trivial, trivial, trivial⟩, trivial⟩
  service := by
    rintro s ⟨⟩
    exact ⟨.nil, trivial⟩
  body := by unfold Table.Ordered; decide +kernel
  files := by unfold Table.Ordered; decide +kernel

theorem sparse_round_trip :
    ArrangedMessage sparseReversed sparse ∧ SoundMessage sparse ∧ Fits (encodeMessage sparseReversed) ∧
      decodeMessage? (encodeMessage sparseReversed) = some sparse ∧
      decodeReply? (encodeReply ⟨[], -1⟩) = some ⟨[], -1⟩ := by
  have fits : Fits (encodeMessage sparseReversed) := by
    unfold Fits
    decide +kernel
  have shallow : messageDepth sparse ≤ nestingLimit := by decide +kernel
  have short : Fits (encodeReply ⟨[], -1⟩) := by
    unfold Fits
    decide +kernel
  exact ⟨sparse_arranged, sparse_sound, fits,
    (wire_round_trip.1 _ _ sparse_arranged sparse_sound fits).mpr shallow, wire_round_trip.2 _ rfl short⟩

end Courier.Wire
