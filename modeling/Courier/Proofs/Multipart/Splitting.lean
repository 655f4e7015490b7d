import Courier.Proofs.Multipart.Part
/-!
A body in parts taken apart again: it is split wherever a line begins with the delimiter.  A delimiter
begins with an end of line and has no other, and no header begins like one; so if no content holds the
delimiter, the pieces are the parts that were written, and nothing else.
-/
namespace Courier.Multipart

/-! ### Splitting a body -/

/-- What stands between the places of a pattern, from the left and without overlap.  The first `skip` bytes
belong to a place that was found. -/
def splitAt (pattern : Bytes) (skip : Nat) : Bytes → List Bytes
  | [] => [[]]
  | b :: rest =>
    match skip with
    | k + 1 => splitAt pattern k rest
    | 0 =>
      if pattern.isPrefixOf (b :: rest) then [] :: splitAt pattern (pattern.length - 1) rest
      else (splitAt pattern 0 rest).modifyHead (b :: ·)

/-- The parts of a body from what stands behind its delimiters: behind the last one the body is closed, and
behind each other one there is a part on the lines that follow. -/
def parts? : List Bytes → Option (List Http.Part)
  | [] => none
  | [last] => if last = closeMark ++ newline then some [] else none
  | piece :: next :: rest => do
    let p ← (after? newline piece).bind part?
    return p :: (← parts? (next :: rest))

/-- What a line begins with that ends a content. -/
def mark (boundary : String) : Bytes := Text.utf8 ("--" ++ boundary)

/-- The parts of a body that begins with a delimiter. -/
def readBack? (boundary : String) (body : Bytes) : Option (List Http.Part) :=
  match splitAt (newline ++ mark boundary) 0 (newline ++ body) with
  | [] :: pieces => parts? pieces
  | _ => none

/-! ### What is written, as parts -/

/-- A body that consists of these parts, in this order. -/
def bodyOf (boundary : String) (parts : List Http.Part) : Bytes :=
  parts.flatMap (fun p => part boundary (partHeader p) p.content) ++ closing boundary

/-- The content type under which a file is written. -/
def typeOf (file : File) : String := if file.contentType == "" then unnamedType else file.contentType

/-- A part for each field, then one for each file. -/
def partsOf (fields : Table String) (files : Table (List File)) : List Http.Part :=
  fields.map (fun f => ⟨f.1, none, none, Text.utf8 f.2⟩) ++
    files.flatMap fun g => g.2.map fun file => ⟨g.1, some file.name, some (typeOf file), file.content⟩

theorem mem_partsOf {fields : Table String} {files : Table (List File)} {p : Http.Part} :
    p ∈ partsOf fields files ↔ (∃ f ∈ fields, p = ⟨f.1, none, none, Text.utf8 f.2⟩) ∨
      ∃ g ∈ files, ∃ file ∈ g.2, p = ⟨g.1, some file.name, some (typeOf file), file.content⟩ := by
  simp only [partsOf, List.mem_append, List.mem_map, List.mem_flatMap, eq_comm]

/-- A file's own content type, unless it names none. -/
theorem typeOf_cases (file : File) : typeOf file = unnamedType ∨ typeOf file = file.contentType := by
  unfold typeOf
  split
  · exact .inl rfl
  · exact .inr rfl

theorem encode_eq_bodyOf (boundary : String) (fields : Table String) (files : Table (List File)) :
    encode boundary fields files = bodyOf boundary (partsOf fields files) := by
  rw [encode, bodyOf, partsOf, List.flatMap_append, List.flatMap_assoc, List.flatMap_map]
  simp only [List.flatMap_map]
  rfl

theorem closing_suffix (boundary : String) (parts : List Http.Part) :
    closing boundary <:+ bodyOf boundary parts :=
  List.suffix_append _ _

/-! ### Delimiters -/

/-- What begins with an end of line and has no other: a place of it ends where the next line does. -/
theorem prefix_before {tail front rest : Bytes} (single : OneLine tail) (h : tail <+: front ++ 0x0D :: rest) :
    tail <+: front := by
  induction front generalizing tail with
  | nil =>
    cases tail with
    | nil => exact List.nil_prefix
    | cons b tail =>
      obtain ⟨rfl, _⟩ := List.cons_prefix_cons.mp h
      exact absurd (List.mem_cons_self ..) single
  | cons c front ih =>
    cases tail with
    | nil => exact List.nil_prefix
    | cons b tail =>
      obtain ⟨rfl, more⟩ := List.cons_prefix_cons.mp h
      exact List.cons_prefix_cons.mpr ⟨rfl, ih (fun member => single (List.mem_cons_of_mem _ member)) more⟩

theorem splitAt_skip (pattern found rest : Bytes) :
    splitAt pattern found.length (found ++ rest) = splitAt pattern 0 rest := by
  induction found with
  | nil => rfl
  | cons b found ih => exact ih

theorem splitAt_cons {pattern rest : Bytes} {b : UInt8} (elsewhere : ¬ pattern <+: b :: rest) :
    splitAt pattern 0 (b :: rest) = (splitAt pattern 0 rest).modifyHead (b :: ·) := by
  rw [splitAt, if_neg fun here => elsewhere (List.isPrefixOf_iff_prefix.mp here)]

/-- A piece without the pattern is split off at the next place of it. -/
theorem splitAt_piece {tail piece : Bytes} (single : OneLine tail) (clear : ¬ 0x0D :: tail <:+: piece)
    (rest : Bytes) :
    splitAt (0x0D :: tail) 0 (piece ++ (0x0D :: tail ++ rest)) = piece :: splitAt (0x0D :: tail) 0 rest := by
  induction piece with
  | nil =>
    have here : (0x0D :: tail).isPrefixOf (0x0D :: (tail ++ rest)) = true :=
      List.isPrefixOf_iff_prefix.mpr (List.prefix_append (0x0D :: tail) rest)
    rw [List.nil_append, List.cons_append, splitAt, if_pos here, List.length_cons, Nat.add_sub_cancel,
      splitAt_skip]
  | cons b piece ih =>
    have elsewhere : ¬ 0x0D :: tail <+: b :: (piece ++ (0x0D :: tail ++ rest)) := by
      intro starts
      obtain ⟨rfl, more⟩ := List.cons_prefix_cons.mp starts
      exact clear (List.cons_prefix_cons.mpr ⟨rfl, prefix_before single more⟩).isInfix
    rw [List.cons_append, splitAt_cons elsewhere,
      ih fun inside => clear (inside.trans (List.suffix_cons b piece).isInfix)]
    rfl

theorem splitAt_last {pattern piece : Bytes} (clear : ¬ pattern <:+: piece) :
    splitAt pattern 0 piece = [piece] := by
  induction piece with
  | nil => rfl
  | cons b piece ih =>
    rw [splitAt_cons fun starts => clear starts.isInfix,
      ih fun inside => clear (inside.trans (List.suffix_cons b piece).isInfix)]
    rfl

theorem mark_eq (boundary : String) : mark boundary = 0x2D :: 0x2D :: Text.utf8 boundary :=
  Text.utf8_append _ _

variable {boundary : String} {p : Http.Part}

/-- No delimiter stands here, be it at the start or behind an end of line. -/
structure Undelimited (boundary : String) (b : Bytes) : Prop where
  start : ¬ mark boundary <+: b
  inside : ¬ newline ++ mark boundary <:+: b

/-- Where a delimiter stands neither in a line nor at the start of the next one nor behind that, it stands
nowhere: what it begins with ends the line. -/
theorem Undelimited.not_behind {line rest : Bytes} (h : Undelimited boundary rest)
    (single : OneLine (mark boundary)) (clear : ¬ newline ++ mark boundary <:+: line) :
    ¬ newline ++ mark boundary <:+: line ++ (newline ++ rest) := by
  have single : OneLine (0x0A :: mark boundary) := oneLine_append (a := [0x0A]) (by decide) single
  induction line with
  | nil =>
    intro found
    rcases List.infix_cons_iff.mp found with starts | found
    · exact h.start ((List.prefix_append_right_inj newline).mp starts)
    rcases List.infix_cons_iff.mp found with starts | found
    · cases (List.cons_prefix_cons.mp starts).1
    · exact h.inside found
  | cons b line ih =>
    intro found
    rcases List.infix_cons_iff.mp found with starts | found
    · obtain ⟨rfl, more⟩ := List.cons_prefix_cons.mp starts
      exact clear (List.cons_prefix_cons.mpr ⟨rfl, prefix_before single more⟩).isInfix
    · exact ih (fun inside => clear (inside.trans (List.suffix_cons b line).isInfix)) found

/-- A delimiter does not stand in one line. -/
theorem OneLine.clear {line : Bytes} (h : OneLine line) : ¬ newline ++ mark boundary <:+: line :=
  fun found => h (found.subset (List.mem_cons_self ..))

theorem Undelimited.blank {rest : Bytes} (h : Undelimited boundary rest) (single : OneLine (mark boundary)) :
    Undelimited boundary (newline ++ rest) where
  start := by
    rw [mark_eq]
    intro starts
    cases (List.cons_prefix_cons.mp starts).1
  inside := h.not_behind single (OneLine.clear List.not_mem_nil)

/-- A header does not begin like a delimiter. -/
theorem Undelimited.line {line rest : Bytes} (h : Undelimited boundary rest)
    (single : OneLine (mark boundary)) (clear : ¬ newline ++ mark boundary <:+: line)
    (headed : line.head? = some 0x43) : Undelimited boundary (line ++ (newline ++ rest)) where
  start := by
    obtain ⟨more, rfl⟩ := List.head?_eq_some_iff.mp headed
    rw [mark_eq]
    intro starts
    cases (List.cons_prefix_cons.mp starts).1
  inside := h.not_behind single clear

theorem nameHeader_head (name : String) : (nameHeader name).head? = some 0x43 := by
  rw [nameHeader, Text.utf8_append, Text.utf8_append]
  rfl

theorem fileLine_head (field file : String) : (fileLine field file).head? = some 0x43 := by
  rw [fileLine, List.head?_append, nameHeader_head]
  rfl

theorem typeLine_head (type : String) : (typeLine type).head? = some 0x43 := by
  rw [typeLine_eq]
  rfl

theorem typeLine_clear {type : String} (clear : ¬ newline ++ mark boundary <:+: Text.utf8 type) :
    ¬ newline ++ mark boundary <:+: typeLine type := by
  have behind : ∀ {front : Bytes}, OneLine front →
      ¬ newline ++ mark boundary <:+: front ++ Text.utf8 type := by
    intro front single
    induction front with
    | nil => exact clear
    | cons b front ih =>
      obtain ⟨here, later⟩ := not_or.mp (mt List.mem_cons.mpr single)
      intro found
      rcases List.infix_cons_iff.mp found with starts | inside
      · exact here (List.cons_prefix_cons.mp starts).1
      · exact ih later inside
  rw [typeLine_eq]
  exact behind (oneLine_utf8 (by decide))

/-- A part that can be split off: no delimiter stands in its content type or its content. -/
structure Apart (boundary : String) (p : Http.Part) : Prop where
  typed : p.contentType.isSome = p.fileName.isSome
  type : ∀ type ∈ p.contentType, ¬ newline ++ mark boundary <:+: Text.utf8 type
  content : ¬ mark boundary <:+: p.content

theorem Apart.undelimited (h : Apart boundary p) (single : OneLine (mark boundary)) :
    Undelimited boundary (newline ++ block p) := by
  have content : Undelimited boundary p.content :=
    ⟨fun starts => h.content starts.isInfix,
      fun found => h.content ((List.suffix_append newline (mark boundary)).isInfix.trans found)⟩
  have below := content.blank single
  rcases field_or_file h.typed with ⟨name, content, rfl⟩ | ⟨name, file, type, content, rfl⟩
  · have named := below.line single (unbroken_nameHeader name).oneLine.clear (nameHeader_head name)
    exact named.blank single
  · have typed := below.line single (typeLine_clear (h.type type rfl)) (typeLine_head type)
    have named := typed.line single (unbroken_fileLine name file).oneLine.clear (fileLine_head name file)
    rw [← List.append_assoc, ← List.append_assoc] at named
    exact named.blank single

/-- A part that can be split off and read: its content type does not go on in another line. -/
structure Separable (boundary : String) (p : Http.Part) : Prop extends Headed p where
  content : ¬ mark boundary <:+: p.content

theorem Separable.apart (h : Separable boundary p) : Apart boundary p where
  typed := h.typed
  type type own := (oneLine_utf8 (h.oneLine type own)).clear
  content := h.content

/-! ### The body -/

theorem oneLine_mark (line : '\r' ∉ boundary.toList) : OneLine (mark boundary) := by
  rw [mark_eq]
  exact oneLine_append (a := [0x2D, 0x2D]) (by decide) (oneLine_utf8 line)

/-- Behind an undelimited piece a body is split into the blocks of its parts and what closes it. -/
theorem splitAt_bodyOf (line : '\r' ∉ boundary.toList) {parts : List Http.Part}
    (apart : ∀ p ∈ parts, Apart boundary p) {piece : Bytes}
    (clear : ¬ newline ++ mark boundary <:+: piece) :
    splitAt (newline ++ mark boundary) 0 (piece ++ (newline ++ bodyOf boundary parts)) =
      piece :: (parts.map (fun p => newline ++ block p) ++ [closeMark ++ newline]) := by
  have single : OneLine (0x0A :: mark boundary) :=
    oneLine_append (a := [0x0A]) (by decide) (oneLine_mark line)
  have split : ∀ {piece : Bytes}, ¬ newline ++ mark boundary <:+: piece → ∀ rest,
      splitAt (newline ++ mark boundary) 0 (piece ++ (newline ++ mark boundary ++ rest)) =
        piece :: splitAt (newline ++ mark boundary) 0 rest :=
    fun clear rest => splitAt_piece single clear rest
  induction parts generalizing piece with
  | nil =>
    have written : newline ++ bodyOf boundary [] = newline ++ mark boundary ++ (closeMark ++ newline) := by
      rw [bodyOf, List.flatMap_nil, List.nil_append, closing, Text.utf8_append, List.append_assoc,
        List.append_assoc]
      rfl
    have empty : Undelimited boundary [] := by
      constructor
      · rw [mark_eq]
        exact fun starts => nomatch List.prefix_nil.mp starts
      · exact fun found => nomatch List.infix_nil.mp found
    have last : ¬ newline ++ mark boundary <:+: closeMark ++ newline :=
      empty.not_behind (oneLine_mark line) (OneLine.clear (by decide))
    rw [written, split clear, splitAt_last last]
    rfl
  | cons p parts ih =>
    have written : newline ++ bodyOf boundary (p :: parts) =
        newline ++ mark boundary ++ ((newline ++ block p) ++ (newline ++ bodyOf boundary parts)) := by
      simp [bodyOf, part, delimiter, mark, block, blankLine]
    have undelimited := (apart p (List.mem_cons_self ..)).undelimited (oneLine_mark line)
    have later := ih (fun q member => apart q (List.mem_cons_of_mem _ member)) undelimited.inside
    rw [written, split clear, later]
    rfl

theorem parts?_blocks {parts : List Http.Part} (headed : ∀ p ∈ parts, Headed p) :
    parts? (parts.map (fun p => newline ++ block p) ++ [closeMark ++ newline]) =
      some (parts.map spacedPart) := by
  induction parts with
  | nil => rfl
  | cons p parts ih =>
    have later := ih fun q member => headed q (List.mem_cons_of_mem _ member)
    have own := part?_block (headed p (List.mem_cons_self ..))
    obtain ⟨next, rest, more⟩ : ∃ next rest,
        parts.map (fun p => newline ++ block p) ++ [closeMark ++ newline] = next :: rest := by
      cases parts with
      | nil => exact ⟨_, _, rfl⟩
      | cons q parts => exact ⟨_, _, rfl⟩
    rw [more] at later
    rw [List.map_cons, List.cons_append, more, parts?, after?_append]
    simp [own, later]

/-- A body is taken apart into the parts that it was made of. -/
theorem readBack?_bodyOf (line : '\r' ∉ boundary.toList) {parts : List Http.Part}
    (separable : ∀ p ∈ parts, Separable boundary p) :
    readBack? boundary (bodyOf boundary parts) = some (parts.map spacedPart) := by
  have empty : ¬ newline ++ mark boundary <:+: [] := fun found => nomatch List.infix_nil.mp found
  have split := splitAt_bodyOf line (fun p member => (separable p member).apart) empty
  rw [List.nil_append] at split
  rw [readBack?, split]
  exact parts?_blocks fun p member => (separable p member).toHeaded

/-- No content holds the delimiter, and neither the boundary nor a content type goes on in another line. -/
structure Splittable (boundary : String) (fields : List (String × String))
    (files : List (String × List File)) : Prop where
  line : '\r' ∉ boundary.toList
  values : ∀ f ∈ fields, Text.contains f.2 ("--" ++ boundary) = false
  contents : ∀ g ∈ files, ∀ file ∈ g.2, ¬ Text.utf8 ("--" ++ boundary) <:+: file.content
  types : ∀ g ∈ files, ∀ file ∈ g.2, '\r' ∉ file.contentType.toList

section

variable {fields fields' : List (String × String)} {files files' : List (String × List File)}

theorem Splittable.of_perm (h : Splittable boundary fields' files') (sameFields : fields.Perm fields')
    (sameFiles : files.Perm files') : Splittable boundary fields files where
  line := h.line
  values f member := h.values f (sameFields.mem_iff.mp member)
  contents g member := h.contents g (sameFiles.mem_iff.mp member)
  types g member := h.types g (sameFiles.mem_iff.mp member)

theorem Splittable.separable (h : Splittable boundary fields files) :
    ∀ p ∈ partsOf fields files, Separable boundary p := by
  intro p member
  rcases mem_partsOf.mp member with ⟨f, present, rfl⟩ | ⟨g, present, file, inside, rfl⟩
  · refine ⟨⟨rfl, by simp⟩, ?_⟩
    intro found
    have holds := (Text.contains_iff_utf8 f.2 ("--" ++ boundary)).mpr found
    rw [h.values f present] at holds
    cases holds
  · refine ⟨⟨rfl, ?_⟩, h.contents g present file inside⟩
    intro type same
    obtain rfl := Option.some.inj same
    rcases typeOf_cases file with unnamed | own
    · rw [unnamed]
      decide
    · rw [own]
      exact h.types g present file inside

/-- What is read back: a part for each field with its value, then for each field of files one for each of
them. -/
def readParts (fields : Table String) (files : Table (List File)) : List Http.Part :=
  fields.map (fun f => ⟨spaced f.1, none, none, Text.utf8 f.2⟩) ++
    files.flatMap fun g => g.2.map fun file =>
      ⟨spaced g.1, some (spaced file.name), some (typeOf file), file.content⟩

theorem map_spacedPart_partsOf (fields : Table String) (files : Table (List File)) :
    (partsOf fields files).map spacedPart = readParts fields files := by
  rw [partsOf, List.map_append, List.map_map, List.map_flatMap]
  simp only [List.map_map]
  rfl

/-- What is written can be taken apart again, in whatever order the entries of the two maps come: the parts
are those of all entries and no others, fields and then files in the order of the bytes of their names, the
files of a field in the order of their list; and the body ends by closing. -/
theorem encode_reads_back (distinctFields : (fields.map Prod.fst).Nodup)
    (distinctFiles : (files.map Prod.fst).Nodup) (h : Splittable boundary fields files) :
    let sortedFields := Table.ofList fields
    let sortedFiles := Table.ofList files
    (sortedFields.Perm fields ∧ (Table.keys sortedFields).Pairwise fun a b => Text.utf8 a < Text.utf8 b) ∧
      (sortedFiles.Perm files ∧ (Table.keys sortedFiles).Pairwise fun a b => Text.utf8 a < Text.utf8 b) ∧
      readBack? boundary (encode boundary sortedFields sortedFiles) =
        some (readParts sortedFields sortedFiles) ∧
      closing boundary <:+ encode boundary sortedFields sortedFiles := by
  intro sortedFields sortedFiles
  have allFields : sortedFields.Perm fields := Table.ofList_perm distinctFields
  have allFiles : sortedFiles.Perm files := Table.ofList_perm distinctFiles
  have separable := (h.of_perm allFields allFiles).separable
  refine ⟨⟨allFields, (Table.Ordered.ofList fields).byBytes⟩,
    ⟨allFiles, (Table.Ordered.ofList files).byBytes⟩, ?_⟩
  rw [encode_eq_bodyOf, readBack?_bodyOf h.line separable, map_spacedPart_partsOf]
  exact ⟨rfl, closing_suffix boundary _⟩

end

/-- A name that tries to end its header, contents that begin like a delimiter, a file without a type and a
field without files. -/
def oddFields : List (String × String) := [("\u00E4", ""), ("a\"\\\r\n\r\nb", "x\r\n--b-")]

def oddFiles : List (String × List File) :=
  [("none", []), ("doc", [⟨"q\".txt", "", [0x2D, 0x2D, 0x62, 0x2D, 0x0D, 0x0A]⟩, ⟨"", "text/plain", []⟩])]

theorem odd_reads_back : Splittable "b-1" oddFields oddFiles ∧
    readBack? "b-1" (encode "b-1" (Table.ofList oddFields) (Table.ofList oddFiles)) =
      some [⟨"a\"\\    b", none, none, Text.utf8 "x\r\n--b-"⟩, ⟨"\u00E4", none, none, []⟩,
        ⟨"doc", some "q\".txt", some "application/octet-stream", [0x2D, 0x2D, 0x62, 0x2D, 0x0D, 0x0A]⟩,
        ⟨"doc", some "", some "text/plain", []⟩] := by
  have splittable : Splittable "b-1" oddFields oddFiles := by
    constructor <;> decide +kernel
  obtain ⟨_, _, read, _⟩ := encode_reads_back (by decide) (by decide) splittable
  have listed : readParts (Table.ofList oddFields) (Table.ofList oddFiles) =
      [⟨"a\"\\    b", none, none, Text.utf8 "x\r\n--b-"⟩, ⟨"\u00E4", none, none, []⟩,
        ⟨"doc", some "q\".txt", some "application/octet-stream", [0x2D, 0x2D, 0x62, 0x2D, 0x0D, 0x0A]⟩,
        ⟨"doc", some "", some "text/plain", []⟩] := by
    decide +kernel
  exact ⟨splittable, read.trans (congrArg some listed)⟩

end Courier.Multipart
