import Courier.Proofs.Multipart.Splitting
import Courier.Tunnel.Intake
/-!
The header of a part, read line by line.  A part has the header lines that it should have, and its content
behind them, exactly if no line ends in its content type: names are escaped, and content types are written
as they come.
-/
namespace Courier.Multipart

/-! ### Reading lines -/

/-- A line has ended before `rest`: an empty one ends the header. -/
def ended (line rest : Bytes) (more : Option (List Bytes × Bytes)) : Option (List Bytes × Bytes) :=
  if line.isEmpty then some ([], rest) else more.map fun r => (line :: r.1, r.2)

/-- Header lines up to an empty one, and what stands behind it.  A carriage return, a line feed or the two
together end a line; `line` is what has been read of one. -/
def headerLines? (line : Bytes) : Bytes → Option (List Bytes × Bytes)
  | [] => none
  | 0x0D :: 0x0A :: rest => ended line rest (headerLines? [] rest)
  | b :: rest =>
    if b == 0x0D || b == 0x0A then ended line rest (headerLines? [] rest)
    else headerLines? (line ++ [b]) rest

/-- What stands before the colon of a header line. -/
def lineName (line : Bytes) : Bytes := line.takeWhile (· != 0x3A)

/-- The header lines that a part should have, by their names. -/
def headerNames (p : Http.Part) : List String :=
  if p.fileName.isSome then ["Content-Disposition", "Content-Type"] else ["Content-Disposition"]

/-- What stands between two delimiters is read as this part: it has its header lines, each once and no others,
and then its content. -/
def ReadsAs (p : Http.Part) (b : Bytes) : Prop :=
  ∃ lines, headerLines? [] b = some (lines, p.content) ∧
    lines.map lineName = (headerNames p).map Text.utf8

theorem headerLines?_newline (line rest : Bytes) :
    headerLines? line (newline ++ rest) = ended line rest (headerLines? [] rest) := by
  rw [headerLines?.eq_def]
  rfl

/-- A byte stands in its line or ends it. -/
theorem inside_or_ends (b : UInt8) : (b ≠ 0x0D ∧ b ≠ 0x0A) ∨ b = 0x0D ∨ b = 0x0A := by
  by_cases noReturn : b = 0x0D
  · exact .inr (.inl noReturn)
  · by_cases noFeed : b = 0x0A
    · exact .inr (.inr noFeed)
    · exact .inl ⟨noReturn, noFeed⟩

theorem headerLines?_inside {b : UInt8} (inside : b ≠ 0x0D ∧ b ≠ 0x0A) (line rest : Bytes) :
    headerLines? line (b :: rest) = headerLines? (line ++ [b]) rest := by
  rw [headerLines?.eq_def]
  simp [inside.1, inside.2]

/-- Whichever byte ends a line, at most a line feed is passed over with it. -/
theorem headerLines?_break {b : UInt8} (ends : b = 0x0D ∨ b = 0x0A) (line rest : Bytes) :
    ∃ rest', rest.length ≤ rest'.length + 1 ∧
      headerLines? line (b :: rest) = ended line rest' (headerLines? [] rest') := by
  rw [headerLines?.eq_def]
  split
  · next found => cases found
  · next rest' found =>
    obtain ⟨rfl, rfl⟩ := List.cons.inj found
    exact ⟨rest', Nat.le_refl _, rfl⟩
  · next c rest' _ found =>
    obtain ⟨rfl, rfl⟩ := List.cons.inj found
    refine ⟨rest, Nat.le_succ _, if_pos ?_⟩
    rcases ends with rfl | rfl <;> rfl

theorem headerLines?_unbroken {text : Bytes} (h : Unbroken text) (line rest : Bytes) :
    headerLines? line (text ++ rest) = headerLines? (line ++ text) rest := by
  induction text generalizing line with
  | nil => rw [List.append_nil, List.nil_append]
  | cons b text ih =>
    obtain ⟨inside, later⟩ := List.forall_mem_cons.mp h
    rw [List.cons_append, headerLines?_inside inside, ih later, List.append_assoc, List.singleton_append]

/-- A line is read up to its end. -/
theorem headerLines?_line {text : Bytes} (h : Unbroken text) (some_text : text ≠ []) (rest : Bytes) :
    headerLines? [] (text ++ (newline ++ rest)) = (headerLines? [] rest).map fun r => (text :: r.1, r.2) := by
  rw [headerLines?_unbroken h, headerLines?_newline, List.nil_append, ended]
  simp [some_text]

/-- Once a line has begun there is a header line. -/
theorem headerLines?_begun {line rest content : Bytes} (begun : line ≠ []) :
    headerLines? line rest ≠ some ([], content) := by
  have not_ended : ∀ {line rest : Bytes} {more : Option (List Bytes × Bytes)}, line ≠ [] →
      ended line rest more ≠ some ([], content) := by
    intro line rest more begun found
    simp [ended, begun] at found
  induction rest generalizing line with
  | nil => exact nofun
  | cons b rest ih =>
    rcases inside_or_ends b with inside | ends
    · rw [headerLines?_inside inside]
      exact ih (List.append_ne_nil_of_left_ne_nil begun _)
    · obtain ⟨rest', _, read⟩ := headerLines?_break ends line rest
      rw [read]
      exact not_ended begun

/-- Without header lines nothing but the end of a line is passed over. -/
theorem length_of_headless {b content : Bytes} (h : headerLines? [] b = some ([], content)) :
    b.length ≤ content.length + 2 := by
  cases b with
  | nil => cases h
  | cons x rest =>
    rcases inside_or_ends x with inside | ends
    · rw [headerLines?_inside inside] at h
      exact absurd h (headerLines?_begun (List.cons_ne_nil x []))
    · obtain ⟨rest', short, read⟩ := headerLines?_break ends [] rest
      rw [read] at h
      have same : rest' = content := congrArg Prod.snd (Option.some.inj h)
      rw [List.length_cons, ← same]
      omega

/-! ### The header of a part -/

theorem lineName_append {name : String} (clear : (Text.utf8 name).all (· != 0x3A) = true) (rest : Bytes) :
    lineName (Text.utf8 name ++ 0x3A :: rest) = Text.utf8 name := by
  rw [lineName, List.takeWhile_append_of_pos (List.all_eq_true.mp clear)]
  simp

theorem lineName_nameHeader (name : String) (more : Bytes) :
    lineName (nameHeader name ++ more) = Text.utf8 "Content-Disposition" := by
  have start : Text.utf8 "Content-Disposition: form-data; name=\"" =
      Text.utf8 "Content-Disposition" ++ 0x3A :: Text.utf8 " form-data; name=\"" := by decide
  rw [nameHeader, Text.utf8_append, Text.utf8_append, start]
  simp only [List.append_assoc, List.cons_append]
  exact lineName_append (by decide) _

theorem lineName_typeLine (type : String) : lineName (typeLine type) = Text.utf8 "Content-Type" := by
  have start : Text.utf8 "Content-Type: " = Text.utf8 "Content-Type" ++ 0x3A :: Text.utf8 " " := by decide
  rw [typeLine_eq, start, List.append_assoc, List.cons_append]
  exact lineName_append (by decide) _

theorem nameHeader_ne_nil (name : String) : nameHeader name ≠ [] := by
  intro none_there
  have head := nameHeader_head name
  rw [none_there] at head
  cases head

theorem headerLines?_content (content : Bytes) :
    headerLines? [] (newline ++ content) = some ([], content) :=
  headerLines?_newline [] content

theorem field_readsAs (name : String) (content : Bytes) :
    ReadsAs ⟨name, none, none, content⟩ (block ⟨name, none, none, content⟩) := by
  have written : block ⟨name, none, none, content⟩ = nameHeader name ++ (newline ++ (newline ++ content)) := by
    rw [block, blankLine, List.append_assoc]
    rfl
  refine ⟨[nameHeader name], ?_, ?_⟩
  · rw [written, headerLines?_line (unbroken_nameHeader name) (nameHeader_ne_nil name), headerLines?_content]
    rfl
  · have named := lineName_nameHeader name []
    rw [List.append_nil] at named
    rw [List.map_singleton, named]
    rfl

section

variable (field file type : String) (content : Bytes)

theorem block_file : block ⟨field, some file, some type, content⟩ =
    fileLine field file ++ (newline ++ (typeLine type ++ (newline ++ (newline ++ content)))) := by
  have written : block ⟨field, some file, some type, content⟩ =
      fileLine field file ++ newline ++ typeLine type ++ (blankLine ++ content) := rfl
  rw [written, blankLine]
  simp only [List.append_assoc]

/-- Reading a file begins with the line of its names. -/
theorem headerLines?_file : headerLines? [] (block ⟨field, some file, some type, content⟩) =
    (headerLines? [] (typeLine type ++ (newline ++ (newline ++ content)))).map
      fun r => (fileLine field file :: r.1, r.2) := by
  have some_text : fileLine field file ≠ [] := List.append_ne_nil_of_left_ne_nil (nameHeader_ne_nil field) _
  rw [block_file, headerLines?_line (unbroken_fileLine field file) some_text]

variable {type}

theorem file_readsAs (unbroken : Unbroken (Text.utf8 type)) :
    ReadsAs ⟨field, some file, some type, content⟩ (block ⟨field, some file, some type, content⟩) := by
  have whole : Unbroken (typeLine type) := by
    rw [typeLine_eq]
    exact unbroken_append ((unbroken_utf8_iff _).mpr (by decide)) unbroken
  refine ⟨[fileLine field file, typeLine type], ?_, ?_⟩
  · rw [headerLines?_file, headerLines?_line whole (typeLine_ne_nil type), headerLines?_content]
    rfl
  · rw [List.map_cons, List.map_singleton, fileLine, lineName_nameHeader, lineName_typeLine]
    rfl

/-- What is broken goes on behind a byte that ends a line. -/
theorem exists_break {b : Bytes} (broken : ¬ Unbroken b) : ∃ front x back, b = front ++ x :: back ∧
    Unbroken front ∧ (x = 0x0D ∨ x = 0x0A) := by
  induction b with
  | nil => exact absurd (List.forall_mem_nil _) broken
  | cons x b ih =>
    rcases inside_or_ends x with inside | ends
    · obtain ⟨front, y, back, rfl, clear, ends⟩ :=
        ih fun later => broken (List.forall_mem_cons.mpr ⟨inside, later⟩)
      exact ⟨x :: front, y, back, rfl, List.forall_mem_cons.mpr ⟨inside, clear⟩, ends⟩
    · exact ⟨[], x, b, rfl, List.forall_mem_nil _, ends⟩

/-- A content type in which a line ends adds a header line, or begins the content early. -/
theorem not_readsAs_of_broken (broken : ¬ Unbroken (Text.utf8 type)) :
    ¬ ReadsAs ⟨field, some file, some type, content⟩ (block ⟨field, some file, some type, content⟩) := by
  rintro ⟨lines, read, names⟩
  obtain ⟨front, x, back, written, clear, ends⟩ := exists_break broken
  have start : Unbroken (Text.utf8 "Content-Type: ") := (unbroken_utf8_iff _).mpr (by decide)
  have some_text : Text.utf8 "Content-Type: " ++ front ≠ [] :=
    List.append_ne_nil_of_left_ne_nil (by decide) _
  have rest_text : typeLine type ++ (newline ++ (newline ++ content)) =
      (Text.utf8 "Content-Type: " ++ front) ++ x :: (back ++ (newline ++ (newline ++ content))) := by
    rw [typeLine_eq, written]
    simp only [List.append_assoc, List.cons_append]
  obtain ⟨rest, long, again⟩ := headerLines?_break ends (Text.utf8 "Content-Type: " ++ front)
    (back ++ (newline ++ (newline ++ content)))
  rw [headerLines?_file, rest_text, headerLines?_unbroken (unbroken_append start clear), List.nil_append,
    again, ended] at read
  cases behind : headerLines? [] rest with
  | none => simp [behind, some_text] at read
  | some r =>
    obtain ⟨more, content'⟩ := r
    simp only [behind, List.isEmpty_iff, some_text, if_false, Option.map_some, Option.some.injEq,
      Prod.mk.injEq] at read
    obtain ⟨rfl, rfl⟩ := read
    -- two lines have been read, so there is no third
    have count := congrArg List.length names
    have none_left : more = [] := by
      rw [← List.length_eq_zero_iff]
      simpa [headerNames] using count
    subst none_left
    have short := length_of_headless behind
    simp only [List.length_append, newline, List.length_cons, List.length_nil] at long
    omega

end

variable {p : Http.Part}

theorem readsAs_iff (typed : p.contentType.isSome = p.fileName.isSome) :
    ReadsAs p (block p) ↔ ∀ type ∈ p.contentType, '\r' ∉ type.toList ∧ '\n' ∉ type.toList := by
  rcases field_or_file typed with ⟨name, content, rfl⟩ | ⟨name, file, type, content, rfl⟩
  · exact ⟨fun _ => nofun, fun _ => field_readsAs name content⟩
  · have own : (∀ t ∈ some type, '\r' ∉ t.toList ∧ '\n' ∉ t.toList) ↔ Unbroken (Text.utf8 type) := by
      rw [unbroken_utf8_iff]
      exact ⟨fun all => all type rfl, fun clear t same => Option.some.inj same ▸ clear⟩
    rw [own]
    constructor
    · intro reads
      by_contra broken
      exact not_readsAs_of_broken name file content broken reads
    · exact file_readsAs name file content

/-! ### The parts of a message -/

theorem bodyOf_blocks (boundary : String) (parts : List Http.Part) : bodyOf boundary parts =
    parts.flatMap (fun p => delimiter boundary ++ block p ++ newline) ++ closing boundary := by
  have written : ∀ p, part boundary (partHeader p) p.content = delimiter boundary ++ block p ++ newline := by
    intro p
    simp only [part, block, blankLine, List.append_assoc]
  rw [bodyOf]
  simp only [written]

/-- The boundary occurs in no value, no content type and no content of a message.  In its names it may: they
are written within a line. -/
structure Absent (boundary : String) (m : Tunnel.Message) : Prop where
  values : ∀ f ∈ m.body, Text.contains f.2 boundary = false
  types : ∀ g ∈ m.files, ∀ file ∈ g.2, Text.contains file.contentType boundary = false
  contents : ∀ g ∈ m.files, ∀ file ∈ g.2, ¬ Text.utf8 boundary <:+: file.content

variable {boundary : String} {m : Tunnel.Message}

theorem typed_of_mem_partsOf {fields : Table String} {files : Table (List File)}
    (member : p ∈ partsOf fields files) : p.contentType.isSome = p.fileName.isSome := by
  rcases mem_partsOf.mp member with ⟨f, _, rfl⟩ | ⟨g, _, file, _, rfl⟩ <;> rfl

theorem boundary_infix_mark (boundary : String) : Text.utf8 boundary <:+: mark boundary := by
  rw [mark_eq]
  exact (List.suffix_append [0x2D, 0x2D] _).isInfix

theorem not_infix_of_contains {text : String} (none_there : Text.contains text boundary = false) :
    ¬ Text.utf8 boundary <:+: Text.utf8 text := by
  rw [← Text.contains_iff_utf8, none_there]
  exact Bool.false_ne_true

theorem Absent.apart (h : Absent boundary m) : ∀ p ∈ partsOf m.body m.files, Apart boundary p := by
  intro p member
  rcases mem_partsOf.mp member with ⟨f, present, rfl⟩ | ⟨g, present, file, inside, rfl⟩
  · refine ⟨rfl, nofun, fun found => ?_⟩
    exact not_infix_of_contains (h.values f present) ((boundary_infix_mark boundary).trans found)
  · refine ⟨rfl, ?_, fun found => h.contents g present file inside ((boundary_infix_mark boundary).trans found)⟩
    intro type same found
    obtain rfl := Option.some.inj same
    rcases typeOf_cases file with unnamed | own
    · rw [unnamed] at found
      exact (oneLine_utf8 (by decide)).clear found
    · rw [own] at found
      have within := (boundary_infix_mark boundary).trans (List.suffix_append newline (mark boundary)).isInfix
      exact not_infix_of_contains (h.types g present file inside) (within.trans found)

/-- The body of a message with files consists of a block for each field and each file, and is split into
just these at a boundary that occurs nowhere.  Whatever the names and the contents are, a block is read as its
part exactly if no line ends in the content type. -/
theorem parts_headed_iff (boundary : String) (m : Tunnel.Message) (files : m.files ≠ []) :
    let parts := partsOf m.body m.files
    m.content boundary =
        parts.flatMap (fun p => delimiter boundary ++ block p ++ newline) ++ closing boundary ∧
      ('\r' ∉ boundary.toList → Absent boundary m →
        splitAt (newline ++ mark boundary) 0 (newline ++ m.content boundary) =
          [] :: (parts.map (fun p => newline ++ block p) ++ [closeMark ++ newline])) ∧
      ∀ p ∈ parts, (ReadsAs p (block p) ↔
        ∀ type ∈ p.contentType, '\r' ∉ type.toList ∧ '\n' ∉ type.toList) := by
  intro parts
  have written : m.content boundary = bodyOf boundary parts := by
    rw [Tunnel.Message.content, if_neg (by simpa using files), encode_eq_bodyOf]
  refine ⟨written.trans (bodyOf_blocks boundary parts), ?_,
    fun p member => readsAs_iff (typed_of_mem_partsOf member)⟩
  intro line absent
  have empty : ¬ newline ++ mark boundary <:+: [] := fun found => nomatch List.infix_nil.mp found
  rw [written]
  exact splitAt_bodyOf line absent.apart empty

/-- Names that try to end their lines, contents that begin like headers and delimiters, and a content type
in which a line ends. -/
def forgedNames : Tunnel.Message :=
  { Tunnel.Message.empty with
    body := [("a\"\r\nContent-Type: b", "\r\nX: y\r\n\r\n")]
    files := [("doc\r\n\r\n", [⟨"b-1\n", "", [0x0D, 0x0A, 0x2D, 0x2D]⟩, ⟨"last", "text/plain\nX: y", []⟩])] }

theorem forged_names_headed :
    forgedNames.files ≠ [] ∧ '\r' ∉ "b-1".toList ∧ Absent "b-1" forgedNames ∧
      (splitAt (newline ++ mark "b-1") 0 (newline ++ forgedNames.content "b-1")).length = 5 ∧
      ∀ p ∈ partsOf forgedNames.body forgedNames.files, ReadsAs p (block p) ↔ p.fileName ≠ some "last" := by
  have files : forgedNames.files ≠ [] := by simp [forgedNames]
  have line : '\r' ∉ "b-1".toList := by decide
  have absent : Absent "b-1" forgedNames := by
    constructor <;> decide +kernel
  have last : ∀ p ∈ partsOf forgedNames.body forgedNames.files,
      (∀ type ∈ p.contentType, '\r' ∉ type.toList ∧ '\n' ∉ type.toList) ↔ p.fileName ≠ some "last" := by
    decide +kernel
  obtain ⟨_, split, reads⟩ := parts_headed_iff "b-1" forgedNames files
  refine ⟨files, line, absent, ?_, fun p member => (reads p member).trans (last p member)⟩
  rw [split line absent]
  rfl

/-- An upload whose content type ends the header. -/
def forgedType : Tunnel.Message :=
  { Tunnel.Message.empty with
    method := "POST"
    endpoint := Text.utf8 "/api/v1/upload"
    requestId := "u"
    files := [("doc", [⟨"a.txt", "\r\n\r\nX", Text.utf8 "hello"⟩])] }

/-- What stands behind it is taken for content, although the boundary occurs nowhere. -/
theorem type_begins_content :
    let p : Http.Part := ⟨"doc", some "a.txt", some "\r\n\r\nX", Text.utf8 "hello"⟩
    forgedType.content "b-1" = delimiter "b-1" ++ block p ++ newline ++ closing "b-1" ∧
      ¬ Text.utf8 "b-1" <:+: block p ∧ p ∈ partsOf forgedType.body forgedType.files ∧
      headerLines? [] (block p) =
        some ([fileLine "doc" "a.txt", typeLine ""], Text.utf8 "X\r\n\r\nhello") ∧
      ¬ ReadsAs p (block p) := by
  intro p
  have read : headerLines? [] (block p) =
      some ([fileLine "doc" "a.txt", typeLine ""], Text.utf8 "X\r\n\r\nhello") := by
    decide +kernel
  refine ⟨by decide +kernel, by decide +kernel, by decide +kernel, read, ?_⟩
  rintro ⟨lines, exact_content, _⟩
  rw [read] at exact_content
  have same : Text.utf8 "X\r\n\r\nhello" = Text.utf8 "hello" :=
    congrArg Prod.snd (Option.some.inj exact_content)
  revert same
  decide

end Courier.Multipart
