import Courier.Multipart.Reader
import Courier.Outbound.Call
import Courier.Proofs.Text.Bytes
/-!
A part taken apart: its header goes up to the first blank line, and what is quoted there is read with its
escapes undone.  A name cannot end its line or its quotes, so it comes back as it was, but for blanks
where a line ended in it; and the content is everything behind the blank line.
-/
namespace Courier.Multipart

/-! ### Reading a part -/

/-- The text up to the closing quote, and what follows; a backslash stands before what it escapes. -/
def quoted? : Bytes → Option (Bytes × Bytes)
  | [] => none
  | b :: rest =>
    if b == 0x22 then some ([], rest)
    else if b == 0x5C then
      match rest with
      | [] => none
      | c :: rest' => (quoted? rest').map fun r => (c :: r.1, r.2)
    else (quoted? rest).map fun r => (b :: r.1, r.2)

/-- A quoted parameter, introduced by `start`. -/
def parameter? (start : String) (b : Bytes) : Option (String × Bytes) := do
  let (value, rest) ← (after? (Text.utf8 start) b).bind quoted?
  return (← Text.ofUtf8? value, rest)

/-- A part: its header up to the first blank line, and its content. -/
def part? (block : Bytes) : Option Http.Part := do
  let (header, rest) ← cutBefore? blankLine [] block
  let content := rest.drop blankLine.length
  let (name, more) ← parameter? "Content-Disposition: form-data; name=\"" header
  if more.isEmpty then return ⟨name, none, none, content⟩
  let (fileName, more) ← parameter? "; filename=\"" more
  let contentType ← (after? (newline ++ Text.utf8 "Content-Type: ") more).bind Text.ofUtf8?
  return ⟨name, some fileName, some contentType, content⟩

/-- The header lines of a part, with the content type as it stands. -/
def partHeader (p : Http.Part) : Bytes :=
  match p.fileName, p.contentType with
  | some file, some type =>
    nameHeader p.name ++ Text.utf8 ("; filename=\"" ++ escape file ++ "\"") ++ newline
      ++ Text.utf8 ("Content-Type: " ++ type)
  | _, _ => nameHeader p.name

/-- What stands between two delimiters, behind the line of the first. -/
def block (p : Http.Part) : Bytes := partHeader p ++ (blankLine ++ p.content)

/-! ### Quoted names -/

/-- A name as it is read back: where a line ended in it there is a blank. -/
def spacedChar (c : Char) : Char := if c == '\r' || c == '\n' then ' ' else c

def spaced (s : String) : String := String.ofList (s.toList.map spacedChar)

theorem quoted?_closing (rest : Bytes) : quoted? (0x22 :: rest) = some ([], rest) := by
  rw [quoted?.eq_def]
  rfl

theorem quoted?_escaped (b : UInt8) (rest : Bytes) :
    quoted? (0x5C :: b :: rest) = (quoted? rest).map fun r => (b :: r.1, r.2) := by
  rw [quoted?.eq_def]
  rfl

theorem quoted?_cons {b : UInt8} (quote : b ≠ 0x22) (backslash : b ≠ 0x5C) (rest : Bytes) :
    quoted? (b :: rest) = (quoted? rest).map fun r => (b :: r.1, r.2) := by
  rw [quoted?.eq_def]
  simp [quote, backslash]

theorem quoted?_bare {xs : Bytes} (bare : ∀ b ∈ xs, b ≠ 0x22 ∧ b ≠ 0x5C) (rest : Bytes) :
    quoted? (xs ++ rest) = (quoted? rest).map fun r => (xs ++ r.1, r.2) := by
  induction xs with
  | nil => simp
  | cons b xs ih =>
    obtain ⟨quote, backslash⟩ := bare b (List.mem_cons_self ..)
    rw [List.cons_append, quoted?_cons quote backslash,
      ih fun x member => bare x (List.mem_cons_of_mem _ member), Option.map_map]
    rfl

theorem quoted?_escapeChar (c : Char) (rest : Bytes) :
    quoted? (Text.encoded (escapeChar c) ++ rest) =
      (quoted? rest).map fun r => (String.utf8EncodeChar (spacedChar c) ++ r.1, r.2) := by
  unfold escapeChar
  split
  · next special =>
    rcases (by simpa using special : c = '\\' ∨ c = '"') with rfl | rfl
    · exact quoted?_escaped 0x5C rest
    · exact quoted?_escaped 0x22 rest
  · next plain =>
    split
    · next ends =>
      rw [spacedChar, if_pos ends]
      exact quoted?_cons (by decide) (by decide) rest
    · next inside =>
      obtain ⟨backslash, quote⟩ : c ≠ '\\' ∧ c ≠ '"' := by simpa using plain
      rw [spacedChar, if_neg inside, ← quoted?_bare, Text.encoded_cons, Text.encoded_nil, List.append_nil]
      intro b member
      have own : b ∈ Text.encoded [c] := by rwa [Text.encoded_cons, Text.encoded_nil, List.append_nil]
      constructor
      · rintro rfl
        exact quote (List.mem_singleton.mp ((Text.mem_encoded_iff (c := '"') (by decide)).mp own)).symm
      · rintro rfl
        exact backslash (List.mem_singleton.mp ((Text.mem_encoded_iff (c := '\\') (by decide)).mp own)).symm

/-- A name that was put in quotes is read back, whatever follows. -/
theorem quoted?_escape (s : String) (rest : Bytes) :
    quoted? (Text.utf8 (escape s) ++ 0x22 :: rest) = some (Text.utf8 (spaced s), rest) := by
  have chars : ∀ cs : List Char, quoted? (Text.encoded (cs.flatMap escapeChar) ++ 0x22 :: rest) =
      some (Text.encoded (cs.map spacedChar), rest) := by
    intro cs
    induction cs with
    | nil => exact quoted?_closing rest
    | cons c cs ih =>
      rw [List.flatMap_cons, Text.encoded_append, List.append_assoc, quoted?_escapeChar, ih, List.map_cons,
        Text.encoded_cons]
      rfl
  rw [escape, Text.utf8_ofList, spaced, Text.utf8_ofList]
  exact chars s.toList

theorem after?_append (start rest : Bytes) : after? start (start ++ rest) = some rest := by
  have found : start.isPrefixOf (start ++ rest) = true :=
    List.isPrefixOf_iff_prefix.mpr (List.prefix_append _ _)
  rw [after?, if_pos found, List.drop_left]

theorem parameter?_quoted (start name : String) (rest : Bytes) :
    parameter? start (Text.utf8 (start ++ escape name ++ "\"") ++ rest) = some (spaced name, rest) := by
  have written : Text.utf8 (start ++ escape name ++ "\"") ++ rest =
      Text.utf8 start ++ (Text.utf8 (escape name) ++ 0x22 :: rest) := by
    rw [Text.utf8_append, Text.utf8_append, List.append_assoc, List.append_assoc]
    rfl
  rw [written, parameter?, after?_append, Option.bind_some, quoted?_escape]
  simp [Text.ofUtf8?_utf8]

/-! ### Lines -/

/-- No line ends inside. -/
def OneLine (b : Bytes) : Prop := 0x0D ∉ b

instance (b : Bytes) : Decidable (OneLine b) := inferInstanceAs (Decidable (0x0D ∉ b))

theorem oneLine_utf8 {s : String} (single : '\r' ∉ s.toList) : OneLine (Text.utf8 s) := by
  rw [OneLine, Text.utf8_eq]
  exact fun member => single ((Text.mem_encoded_iff (c := '\r') (by decide)).mp member)

theorem oneLine_append {a b : Bytes} (front : OneLine a) (back : OneLine b) : OneLine (a ++ b) := by
  intro member
  rcases List.mem_append.mp member with inside | inside
  · exact front inside
  · exact back inside

/-- No line ends inside, whatever is taken for the end of a line: neither a carriage return nor a line
feed. -/
def Unbroken (b : Bytes) : Prop := ∀ x ∈ b, x ≠ 0x0D ∧ x ≠ 0x0A

theorem Unbroken.oneLine {b : Bytes} (h : Unbroken b) : OneLine b := fun member => (h _ member).1 rfl

theorem unbroken_append {a b : Bytes} (front : Unbroken a) (back : Unbroken b) : Unbroken (a ++ b) :=
  List.forall_mem_append.mpr ⟨front, back⟩

theorem unbroken_utf8_iff (s : String) :
    Unbroken (Text.utf8 s) ↔ '\r' ∉ s.toList ∧ '\n' ∉ s.toList := by
  rw [Text.utf8_eq, ← Text.mem_encoded_iff (c := '\r') (by decide),
    ← Text.mem_encoded_iff (c := '\n') (by decide)]
  constructor
  · intro h
    exact ⟨fun member => (h _ member).1 rfl, fun member => (h _ member).2 rfl⟩
  · rintro ⟨noReturn, noFeed⟩ x member
    constructor
    · rintro rfl
      exact noReturn member
    · rintro rfl
      exact noFeed member

theorem unbroken_escape (s : String) : Unbroken (Text.utf8 (escape s)) := by
  have clear : ∀ c ∈ (escape s).toList, c ≠ '\r' ∧ c ≠ '\n' := by
    rw [escape, String.toList_ofList]
    intro c member
    obtain ⟨d, _, member⟩ := List.mem_flatMap.mp member
    unfold escapeChar at member
    split at member
    · next special =>
      rcases (by simpa using special : d = '\\' ∨ d = '"') with rfl | rfl <;>
        rcases List.mem_pair.mp member with rfl | rfl <;> decide
    · split at member
      · obtain rfl := List.mem_singleton.mp member
        decide
      · next inside =>
        obtain rfl := List.mem_singleton.mp member
        simpa using inside
  exact (unbroken_utf8_iff _).mpr ⟨fun member => (clear _ member).1 rfl, fun member => (clear _ member).2 rfl⟩

theorem unbroken_quoted {start : String} (clear : Unbroken (Text.utf8 start)) (name : String) :
    Unbroken (Text.utf8 (start ++ escape name ++ "\"")) := by
  have closing : Unbroken (Text.utf8 "\"") := (unbroken_utf8_iff _).mpr (by decide)
  rw [Text.utf8_append, Text.utf8_append]
  exact unbroken_append (unbroken_append clear (unbroken_escape name)) closing

theorem unbroken_nameHeader (name : String) : Unbroken (nameHeader name) :=
  unbroken_quoted ((unbroken_utf8_iff _).mpr (by decide)) name

/-- A blank line does not begin inside a line. -/
theorem cutBefore?_line {line : Bytes} (single : OneLine line) (front rest : Bytes) :
    cutBefore? blankLine front (line ++ rest) = cutBefore? blankLine (line.reverse ++ front) rest := by
  induction line generalizing front with
  | nil => rfl
  | cons b line ih =>
    obtain ⟨here, later⟩ : 0x0D ≠ b ∧ OneLine line := by
      simpa only [OneLine, List.mem_cons, not_or] using single
    have none_here : blankLine.isPrefixOf (b :: (line ++ rest)) = false := by
      simp [blankLine, newline, List.isPrefixOf, here]
    rw [List.cons_append, cutBefore?, if_neg (by simp [none_here]), ih later, List.reverse_cons,
      List.append_assoc, List.singleton_append]

theorem cutBefore?_blank (front rest : Bytes) :
    cutBefore? blankLine front (blankLine ++ rest) = some (front.reverse, blankLine ++ rest) := rfl

/-- A line that another one follows is not blank. -/
theorem cutBefore?_newline {b : UInt8} (inside : b ≠ 0x0D) (front rest : Bytes) :
    cutBefore? blankLine front (newline ++ b :: rest) =
      cutBefore? blankLine (newline.reverse ++ front) (b :: rest) := by
  simp [newline, blankLine, cutBefore?, inside.symm]

theorem cutBefore?_one {line : Bytes} (single : OneLine line) (rest : Bytes) :
    cutBefore? blankLine [] (line ++ (blankLine ++ rest)) = some (line, blankLine ++ rest) := by
  rw [cutBefore?_line single, cutBefore?_blank, List.append_nil, List.reverse_reverse]

theorem cutBefore?_two {first second : Bytes} (single : OneLine first) (single' : OneLine second)
    (some_text : second ≠ []) (rest : Bytes) :
    cutBefore? blankLine [] (first ++ newline ++ second ++ (blankLine ++ rest)) =
      some (first ++ newline ++ second, blankLine ++ rest) := by
  obtain ⟨b, more, rfl⟩ := List.exists_cons_of_ne_nil some_text
  have inside : b ≠ 0x0D := by
    rintro rfl
    exact single' (List.mem_cons_self ..)
  rw [List.append_assoc, List.append_assoc, cutBefore?_line single, List.cons_append,
    cutBefore?_newline inside, ← List.cons_append, cutBefore?_line single', cutBefore?_blank]
  simp

/-! ### Header and content -/

/-- A part with its names as they are read back. -/
def spacedPart (p : Http.Part) : Http.Part :=
  { p with name := spaced p.name, fileName := p.fileName.map spaced }

/-- The header lines of a file. -/
def fileLine (field file : String) : Bytes :=
  nameHeader field ++ Text.utf8 ("; filename=\"" ++ escape file ++ "\"")

def typeLine (type : String) : Bytes := Text.utf8 ("Content-Type: " ++ type)

theorem unbroken_fileLine (field file : String) : Unbroken (fileLine field file) :=
  unbroken_append (unbroken_nameHeader field)
    (unbroken_quoted ((unbroken_utf8_iff _).mpr (by decide)) file)

theorem typeLine_eq (type : String) : typeLine type = Text.utf8 "Content-Type: " ++ Text.utf8 type :=
  Text.utf8_append _ _

theorem oneLine_typeLine {type : String} (single : '\r' ∉ type.toList) : OneLine (typeLine type) := by
  rw [typeLine_eq]
  exact oneLine_append (oneLine_utf8 (by decide)) (oneLine_utf8 single)

theorem typeLine_ne_nil (type : String) : typeLine type ≠ [] := by
  rw [typeLine_eq]
  exact List.append_ne_nil_of_left_ne_nil (by decide) _

theorem part?_field (name : String) (content : Bytes) :
    part? (nameHeader name ++ (blankLine ++ content)) = some ⟨spaced name, none, none, content⟩ := by
  have named := parameter?_quoted "Content-Disposition: form-data; name=\"" name []
  rw [List.append_nil] at named
  rw [part?, cutBefore?_one (unbroken_nameHeader name).oneLine]
  simp [nameHeader, named]

theorem part?_file (field file type : String) (single : '\r' ∉ type.toList) (content : Bytes) :
    part? (fileLine field file ++ newline ++ typeLine type ++ (blankLine ++ content)) =
      some ⟨spaced field, some (spaced file), some type, content⟩ := by
  have named := parameter?_quoted "Content-Disposition: form-data; name=\"" field
  have filed := parameter?_quoted "; filename=\"" file
  have typed : after? (newline ++ Text.utf8 "Content-Type: ") (newline ++ typeLine type) =
      some (Text.utf8 type) := by
    rw [typeLine_eq, ← List.append_assoc, after?_append]
  rw [part?, cutBefore?_two (unbroken_fileLine field file).oneLine (oneLine_typeLine single)
    (typeLine_ne_nil type)]
  have more : newline ≠ [] := by decide
  simp [fileLine, nameHeader, named, filed, typed, more, Text.ofUtf8?_utf8]

variable {p : Http.Part}

/-- A part with a content type exactly if it has a file name is a field or a file. -/
theorem field_or_file (typed : p.contentType.isSome = p.fileName.isSome) :
    (∃ name content, p = ⟨name, none, none, content⟩) ∨
      ∃ name file type content, p = ⟨name, some file, some type, content⟩ := by
  obtain ⟨name, fileName, contentType, content⟩ := p
  cases fileName with
  | none =>
    cases contentType with
    | none => exact .inl ⟨name, content, rfl⟩
    | some type => cases typed
  | some file =>
    cases contentType with
    | none => cases typed
    | some type => exact .inr ⟨name, file, type, content, rfl⟩

/-- A part has a content type if it has a file name, and that goes on in no other line. -/
structure Headed (p : Http.Part) : Prop where
  typed : p.contentType.isSome = p.fileName.isSome
  oneLine : ∀ type ∈ p.contentType, '\r' ∉ type.toList

theorem part?_block (h : Headed p) : part? (block p) = some (spacedPart p) := by
  rcases field_or_file h.typed with ⟨name, content, rfl⟩ | ⟨name, file, type, content, rfl⟩
  · exact part?_field name content
  · exact part?_file name file type (h.oneLine type rfl) content

end Courier.Multipart
