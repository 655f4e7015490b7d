import Courier.Proofs.Http.MediaType
import Courier.Proofs.Multipart.Splitting
import Courier.Proofs.Tunnel.Intake
/-!
Uploads over both transports.  Over HTTP a body is in parts if there is a file; at the other end of the
tunnel it is if the message has a table of files, be its lists empty.  Unless a request has fields for files
and no file the two agree, and then the bytes that come out of the tunnel are those of the parts that HTTP
is given, one after the other.
-/
namespace Courier

namespace Multipart

/-- The parts of a request are those that HTTP is given, unless the adapter has to name a content type. -/
theorem partsOf_request {r : Request} (typed : ∀ g ∈ r.files, ∀ file ∈ g.2, file.contentType ≠ "") :
    partsOf (Tunnel.encodeFields r.payload) r.files = Call.parts r := by
  have file : ∀ g ∈ r.files, (g.2.map fun file =>
      (⟨g.1, some file.name, some (typeOf file), file.content⟩ : Http.Part)) = g.2.map (Call.filePart g.1) := by
    intro g member
    refine List.map_congr_left fun file listed => ?_
    have named : (file.contentType == "") = false := beq_eq_false_iff_ne.mpr (typed g member file listed)
    simp only [Call.filePart, typeOf, named, Bool.false_eq_true, if_false]
  rw [partsOf, Call.parts, List.flatMap_congr file, Tunnel.encodeFields, Table.mapValues, List.map_map]
  rfl

end Multipart

/-- The boundary that a request declares, if its body is in parts. -/
def Inbound.boundary? (q : Inbound) : Option String := q.mediaType?.bind Http.MediaType.boundary?

/-- A message that is taken in is in parts exactly if its table of files has entries. -/
theorem Tunnel.boundary?_inbound {m : Message} {boundary : String} {peer : Option String} {q : Inbound}
    (token : Http.isToken boundary = true) (taken : m.inbound? boundary peer = .ok q) :
    q.boundary? = if m.files.isEmpty then none else some boundary := by
  have visible : (Text.utf8 (m.contentType boundary)).all Http.isVisibleByte = true := by
    unfold Message.contentType
    split
    · decide +kernel
    · exact Http.all_visible_append (by decide +kernel) (Http.isToken_visible token)
  have declared : q.headers.text? "content-type" = some (m.contentType boundary) := by
    have header : Http.Headers.get? "content-type" q.headers = some (Text.utf8 (m.contentType boundary)) := by
      rw [inbound?_headers taken, Message.inboundHeaders, Http.Headers.get?_tryInsertText_of_ne (by decide)]
      exact Http.Headers.get?_tryInsertText_self (Http.isLegalValue_of_visible visible) _
    rw [Http.Headers.text?, header, Option.bind_some]
    exact Http.visible?_iff.mpr ⟨visible, rfl⟩
  rw [Inbound.boundary?, Inbound.mediaType?, declared, Option.bind_some, Message.contentType]
  split
  · exact Http.MediaType.boundary?_json
  · exact Http.MediaType.boundary?_formData token

namespace Call

/-- The message of a call as it arrives, the entries of its maps in any order. -/
structure Arrives (c : Call) (m : Tunnel.Message) : Prop where
  rest : m = { c.message with headers := m.headers, body := m.body, files := m.files }
  headers : m.headers.Perm c.message.headers
  body : ∃ entries, entries.Perm c.message.body ∧ m.body = Table.ofList entries
  files : ∃ entries, entries.Perm c.message.files ∧ m.files = Table.ofList entries

/-- The request is in parts exactly if HTTP sends parts, and then its body consists of the same: a part for
each field with its JSON text, then one for each file, field by field. -/
structure SameParts (c : Call) (boundary : String) (q : Inbound) : Prop where
  multipart : q.boundary?.isSome = true ↔ ∃ parts, c.submission.payload = .parts parts
  body : ∀ parts, c.submission.payload = .parts parts →
    q.boundary? = some boundary ∧ q.body = Multipart.bodyOf boundary parts
  listed : ∀ parts, c.submission.payload = .parts parts →
    parts = c.request.payload.map (fun f => ⟨f.1, none, none, Text.utf8 f.2.text⟩) ++
      c.request.files.flatMap fun g =>
        g.2.map fun file => ⟨g.1, some file.name, some file.contentType, file.content⟩

theorem submission_parts_iff {c : Call} {ps : List Http.Part} :
    c.submission.payload = .parts ps ↔ c.request.hasFiles = true ∧ ps = parts c.request := by
  unfold submission payload
  dsimp only
  split
  · next files => simp [files, eq_comm]
  · next files => split <;> simp [files]

variable {c : Call} {m : Tunnel.Message} {boundary : String} {peer : Option String} {q : Inbound}

theorem Arrives.files_eq (arrives : c.Arrives m) (ordered : Table.Ordered c.request.files) :
    m.files = c.request.files := by
  obtain ⟨entries, order, made⟩ := arrives.files
  rw [made, Table.ofList_of_perm order ordered]
  rfl

theorem Arrives.body_eq (arrives : c.Arrives m) (ordered : Table.Ordered c.request.payload) :
    m.body = Tunnel.encodeFields c.request.payload := by
  obtain ⟨entries, order, made⟩ := arrives.body
  have keys : Table.keys c.message.body = Table.keys c.request.payload := by
    simp [message, Tunnel.encodeFields, Table.mapValues, Table.keys]
  rw [made, Table.ofList_of_perm order (by rwa [Table.Ordered, keys])]
  rfl

/-- With a table of files the adapter writes the parts that HTTP would be given. -/
theorem body_of_files (fields : m.body = Tunnel.encodeFields c.request.payload)
    (files : m.files = c.request.files) (some_fields : c.request.files ≠ [])
    (valid : ∀ g ∈ c.request.files, ∀ file ∈ g.2, (Http.MediaType.parse? file.contentType).isSome = true)
    (taken : m.inbound? boundary peer = .ok q) : q.body = Multipart.bodyOf boundary (parts c.request) := by
  have typed : ∀ g ∈ c.request.files, ∀ file ∈ g.2, file.contentType ≠ "" := by
    intro g member file listed blank
    have unparsed : Http.MediaType.parse? "" = none := by decide
    have parsed := valid g member file listed
    rw [blank, unparsed] at parsed
    cases parsed
  have present : c.request.files.isEmpty = false := by simpa using some_fields
  obtain ⟨_, _, _, rfl⟩ := Tunnel.inbound?_iff.mp taken
  rw [← Multipart.partsOf_request typed, ← Multipart.encode_eq_bodyOf, Tunnel.Message.requestTo,
    Tunnel.Message.content, files, present, fields]
  rfl

/-- Whatever the order in which the message's maps arrive. -/
theorem sameParts_iff (orderedFields : Table.Ordered c.request.payload)
    (orderedFiles : Table.Ordered c.request.files)
    (valid : ∀ g ∈ c.request.files, ∀ file ∈ g.2, (Http.MediaType.parse? file.contentType).isSome = true)
    (token : Http.isToken boundary = true) (arrives : c.Arrives m) (taken : m.inbound? boundary peer = .ok q) :
    c.SameParts boundary q ↔ (c.request.files = [] ∨ c.request.hasFiles = true) := by
  have files := arrives.files_eq orderedFiles
  have declared := Tunnel.boundary?_inbound token taken
  have tunnelled : q.boundary?.isSome = true ↔ c.request.files ≠ [] := by
    rw [declared, files]
    cases c.request.files <;> simp
  have submitted : (∃ ps, c.submission.payload = .parts ps) ↔ c.request.hasFiles = true := by
    simp [submission_parts_iff]
  have present : c.request.hasFiles = true → c.request.files ≠ [] := by
    intro has none_given
    simp [Request.hasFiles, none_given] at has
  constructor
  · intro same
    have agree := same.multipart
    rw [tunnelled, submitted] at agree
    by_cases none_given : c.request.files = []
    · exact .inl none_given
    · exact .inr (agree.mp none_given)
  · intro fair
    refine ⟨?_, fun ps sent => ?_, fun ps sent => (submission_parts_iff.mp sent).2⟩
    · rw [tunnelled, submitted]
      exact ⟨fair.resolve_left, present⟩
    · obtain ⟨has, rfl⟩ := submission_parts_iff.mp sent
      have some_fields := present has
      exact ⟨declared.trans (if_neg (by simpa [files] using some_fields)),
        body_of_files (arrives.body_eq orderedFields) files some_fields valid taken⟩

/-- An upload with one field beside its files. -/
def uploading (files : Table (List File)) : Call where
  target := "ledger"
  request := { method := "POST", path := "upload", payload := [("n", .int 1)], files := files }
  context := {}
  endpoint := ⟨"ledger", "http", "localhost", 8000, 9000, "v1"⟩
  headers := []
  claims := []
  timeout := .ofSeconds 30
  span := none

theorem uploading_taken (files : Table (List File)) : ∃ q,
    (uploading files).message.inbound? "b" none = .ok q := by
  have path : (uploading []).message.endpoint = Text.utf8 "/api/v1/upload" := by decide +kernel
  have uri : (uploading files).message.endpointUri? = some ⟨none, none, "/api/v1/upload", none⟩ := by
    have address : (uploading files).message.endpoint = Text.utf8 "/api/v1/upload" := path
    rw [Tunnel.Message.endpointUri?, Tunnel.Message.endpointText, address]
    decide +kernel
  have method : Http.isToken (Text.upper "POST") = true := by decide
  exact ⟨_, Tunnel.inbound?_iff.mpr ⟨method, _, uri, rfl⟩⟩

theorem uploading_fields (files : Table (List File)) : Table.Ordered (uploading files).request.payload :=
  List.pairwise_singleton (· < ·) "n"

theorem uploading_arrives {files : Table (List File)} (ordered : Table.Ordered files) :
    (uploading files).Arrives (uploading files).message where
  rest := rfl
  headers := .refl _
  body := ⟨_, .refl _, rfl⟩
  files := ⟨_, .refl _, (Table.ofList_of_perm (.refl _) ordered).symm⟩

/-- A text file beside a number. -/
theorem document_sameParts : ∃ q,
    (uploading [("doc", [⟨"a.txt", "text/plain", [0x61]⟩])]).message.inbound? "b" none = .ok q ∧
      (uploading [("doc", [⟨"a.txt", "text/plain", [0x61]⟩])]).SameParts "b" q := by
  have ordered : Table.Ordered [("doc", [(⟨"a.txt", "text/plain", [0x61]⟩ : File)])] :=
    List.pairwise_singleton (· < ·) "doc"
  have typed : (Http.MediaType.parse? "text/plain").isSome = true := by decide
  obtain ⟨q, taken⟩ := uploading_taken [("doc", [⟨"a.txt", "text/plain", [0x61]⟩])]
  refine ⟨q, taken, (sameParts_iff (uploading_fields _) ordered ?_ (by decide)
    (uploading_arrives ordered) taken).mpr (.inr rfl)⟩
  intro g member file listed
  obtain rfl := List.mem_singleton.mp member
  obtain rfl := List.mem_singleton.mp listed
  exact typed

/-- A field for files without a file makes parts of a request that HTTP sends as JSON. -/
theorem bare_field_disagrees :
    ¬ ∀ (c : Call) (m : Tunnel.Message) (boundary : String) (peer : Option String) (q : Inbound),
      Table.Ordered c.request.payload → Table.Ordered c.request.files →
      (∀ g ∈ c.request.files, ∀ file ∈ g.2, (Http.MediaType.parse? file.contentType).isSome = true) →
      Http.isToken boundary = true → c.Arrives m → m.inbound? boundary peer = .ok q →
      c.SameParts boundary q := by
  intro all
  have ordered : Table.Ordered [("doc", ([] : List File))] := List.pairwise_singleton (· < ·) "doc"
  have valid : ∀ g ∈ [("doc", ([] : List File))], ∀ file ∈ g.2,
      (Http.MediaType.parse? file.contentType).isSome = true := by simp
  obtain ⟨q, taken⟩ := uploading_taken [("doc", [])]
  have same := all _ _ _ _ q (uploading_fields _) ordered valid (by decide) (uploading_arrives ordered) taken
  have declared : q.boundary? = some "b" := Tunnel.boundary?_inbound (by decide) taken
  obtain ⟨ps, sent⟩ := same.multipart.mp (by rw [declared]; rfl)
  have has : (uploading [("doc", [])]).request.hasFiles = true := (submission_parts_iff.mp sent).1
  exact Bool.false_ne_true has

end Call
end Courier
