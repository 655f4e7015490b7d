import Courier.Document.Lexical
/-!
Documents in YAML, as settings need them: mappings and lists by indentation or in brackets, with plain and
quoted texts.  There are no anchors, tags or texts over several lines.
-/
namespace Courier.Document.Yaml

/-- A line that is not empty: how far it is indented, and its text without a comment. -/
structure Line where
  indent : Nat
  text : Chars
  deriving Repr

/-- Text up to a comment, which a blank or the start of the line precedes.  Quoted text has none. -/
def dropComment (quote : Option Char) (before : Char) : Chars → Chars
  | [] => []
  | c :: rest =>
    match quote with
    | some q => c :: dropComment (if c == q && before != '\\' then none else quote) c rest
    | none =>
      if c == '#' && isSpaceOrTab before then []
      else
        let opens := (c == '"' || c == '\'') && !Text.isLetter before && !Text.isDigit before
        c :: dropComment (if opens then some c else none) c rest

def line? (s : Chars) : Option Line :=
  let body := s.dropWhile (· == ' ')
  let text := Text.dropEndWhile isSpaceOrTab (dropComment none ' ' body)
  if text.isEmpty then none else some ⟨s.length - body.length, text⟩

/-! ### Scalars -/

def specialDouble? (s : String) : Option Double :=
  if [".inf", ".Inf", ".INF", "+.inf", "+.Inf", "+.INF"].contains s then some (.infinity false)
  else if ["-.inf", "-.Inf", "-.INF"].contains s then some (.infinity true)
  else if [".nan", "NaN", ".NAN"].contains s then some .nan
  else Double.ofText? s

def signedWhole? (s : Chars) : Option Json :=
  match s with
  | '-' :: ds => wholeIn? 10 true ds
  | '+' :: ds => wholeIn? 10 false ds
  | ds => wholeIn? 10 false ds

/-- What a plain text is. -/
def plain (s : Chars) : Json :=
  let text := String.ofList s
  let based := match s with
    | '0' :: 'x' :: ds => wholeIn? 16 false ds
    | '0' :: 'o' :: ds => wholeIn? 8 false ds
    | _ => none
  match based.or (signedWhole? s) with
  | some n => n
  | none =>
    if text == "~" || text == "null" then .null
    else if text == "true" then .bool true
    else if text == "false" then .bool false
    else
      match specialDouble? text with
      | some x => .double x
      | none => .str text

/-- The character that a backslash introduces between double quotes. -/
def escape? : Chars → Option (Char × Chars)
  | '0' :: r => some ('\x00', r)
  | 'a' :: r => some ('\x07', r)
  | 'b' :: r => some ('\x08', r)
  | 't' :: r => some ('\t', r)
  | 'n' :: r => some ('\n', r)
  | 'v' :: r => some ('\x0b', r)
  | 'f' :: r => some ('\x0c', r)
  | 'r' :: r => some ('\r', r)
  | 'e' :: r => some ('\x1b', r)
  | ' ' :: r => some (' ', r)
  | '"' :: r => some ('"', r)
  | '/' :: r => some ('/', r)
  | '\\' :: r => some ('\\', r)
  | 'x' :: r => hexChar? 2 r
  | 'u' :: r => hexChar? 4 r
  | 'U' :: r => hexChar? 8 r
  | _ => none

def double? : Nat → Chars → Chars → Option (Chars × Chars)
  | 0, _, _ => none
  | fuel + 1, front, s =>
    match s with
    | [] => none
    | '"' :: rest => some (front.reverse, rest)
    | '\\' :: rest => (escape? rest).bind fun r => double? fuel (r.1 :: front) r.2
    | c :: rest => double? fuel (c :: front) rest

/-- Two single quotes are one. -/
def single? (front : Chars) : Chars → Option (Chars × Chars)
  | [] => none
  | '\'' :: '\'' :: rest => single? ('\'' :: front) rest
  | '\'' :: rest => some (front.reverse, rest)
  | c :: rest => single? (c :: front) rest

def quoted? (s : Chars) : Option (Chars × Chars) :=
  match s with
  | '"' :: rest => double? (s.length + 1) [] rest
  | '\'' :: rest => single? [] rest
  | _ => none

/-! ### Collections in brackets -/

def isFlowMark (c : Char) : Bool := c == ',' || c == '[' || c == ']' || c == '{' || c == '}'

/-- A plain text between brackets, up to a mark or a colon before a blank. -/
def flowPlain : Chars → Chars × Chars
  | [] => ([], [])
  | ':' :: ' ' :: rest => ([], ':' :: ' ' :: rest)
  | c :: rest =>
    if isFlowMark c then ([], c :: rest)
    else
      let (text, more) := flowPlain rest
      (c :: text, more)

mutual

def flow? : Nat → Chars → Option (Json × Chars)
  | 0, _ => none
  | fuel + 1, s =>
    match skipSpaces s with
    | '[' :: rest => flowItems? fuel [] rest
    | '{' :: rest => flowMembers? fuel [] rest
    | c :: rest =>
      if c == '"' || c == '\'' then (quoted? (c :: rest)).map fun r => (.str (String.ofList r.1), r.2)
      else
        let (text, more) := flowPlain (c :: rest)
        some (plain (trimSpaces text), more)
    | [] => none

def flowItems? : Nat → List Json → Chars → Option (Json × Chars)
  | 0, _, _ => none
  | fuel + 1, front, s =>
    match skipSpaces s with
    | ']' :: rest => some (.arr front.reverse, rest)
    | s => do
      let (v, rest) ← flow? fuel s
      match skipSpaces rest with
      | ',' :: rest => flowItems? fuel (v :: front) rest
      | ']' :: rest => some (.arr (v :: front).reverse, rest)
      | _ => none

def flowMembers? : Nat → List (String × Json) → Chars → Option (Json × Chars)
  | 0, _, _ => none
  | fuel + 1, front, s =>
    match skipSpaces s with
    | '}' :: rest => some (Json.object front.reverse, rest)
    | s => do
      let (k, rest) ← flow? fuel s
      let name ← keyName? k
      match skipSpaces rest with
      | ':' :: rest => do
        let (v, rest) ← flow? fuel rest
        match skipSpaces rest with
        | ',' :: rest => flowMembers? fuel ((name, v) :: front) rest
        | '}' :: rest => some (Json.object ((name, v) :: front).reverse, rest)
        | _ => none
      | _ => none

/-- Keys are texts or whole numbers. -/
def keyName? : Json → Option String
  | .str s => some s
  | .int n => some (toString n)
  | _ => none

end

/-! ### Blocks -/

/-- A key with what follows its colon. -/
def member? (s : Chars) : Option (String × Chars) :=
  let afterColon (key rest : Chars) (plainKey : Bool) : Option (String × Chars) :=
    match rest with
    | [':'] => (if plainKey then keyName? (plain key) else some (String.ofList key)).map (·, [])
    | ':' :: ' ' :: rest =>
      (if plainKey then keyName? (plain key) else some (String.ofList key)).map (·, skipSpaces rest)
    | _ => none
  match quoted? s with
  | some (key, rest) => afterColon key rest false
  | none => plainKey? afterColon [] s
where
  plainKey? (done : Chars → Chars → Bool → Option (String × Chars)) (front : Chars) :
      Chars → Option (String × Chars)
    | [] => none
    | [':'] => done (trimSpaces front.reverse) [':'] true
    | ':' :: ' ' :: rest => done (trimSpaces front.reverse) (':' :: ' ' :: rest) true
    | c :: rest => plainKey? done (c :: front) rest

def item? (s : Chars) : Option Chars :=
  match s with
  | ['-'] => some []
  | '-' :: ' ' :: rest => some (skipSpaces rest)
  | _ => none

/-- A value that stands on one line. -/
def inline? (s : Chars) : Option Json :=
  match s with
  | c :: _ =>
    if c == '[' || c == '{' || c == '"' || c == '\'' then
      match flow? (s.length + 1) s with
      | some (v, rest) => if (skipSpaces rest).isEmpty then some v else none
      | none => none
    else some (plain s)
  | [] => some .null

mutual

/-- A value that starts on a line of its own, indented at least so far. -/
def block? : Nat → Nat → List Line → Option (Json × List Line)
  | 0, _, _ => none
  | fuel + 1, least, ls =>
    match ls with
    | [] => some (.null, [])
    | l :: rest =>
      if l.indent < least then some (.null, l :: rest)
      else if (item? l.text).isSome then listAt? fuel l.indent [] (l :: rest)
      else if (member? l.text).isSome then mappingAt? fuel l.indent [] (l :: rest)
      else (inline? l.text).map fun v => (v, rest)

def listAt? : Nat → Nat → List Json → List Line → Option (Json × List Line)
  | 0, _, _, _ => none
  | fuel + 1, indent, front, ls =>
    match ls with
    | [] => some (.arr front.reverse, [])
    | l :: rest =>
      match if l.indent == indent then item? l.text else none with
      | none => if l.indent ≤ indent then some (.arr front.reverse, l :: rest) else none
      | some [] => do
        let (v, rest) ← block? fuel (indent + 1) rest
        listAt? fuel indent (v :: front) rest
      | some text => do
        let inner : Line := ⟨indent + (l.text.length - text.length), text⟩
        let (v, rest) ← block? fuel (indent + 1) (inner :: rest)
        listAt? fuel indent (v :: front) rest

def mappingAt? : Nat → Nat → List (String × Json) → List Line → Option (Json × List Line)
  | 0, _, _, _ => none
  | fuel + 1, indent, front, ls =>
    match ls with
    | [] => some (Json.object front.reverse, [])
    | l :: rest =>
      if l.indent < indent then some (Json.object front.reverse, l :: rest)
      else if indent < l.indent then none
      else
        match member? l.text with
        | none => none
        | some (key, []) => do
          let nested := match rest with
            | next :: _ => next.indent == indent && (item? next.text).isSome
            | [] => false
          let (v, rest) ← block? fuel (if nested then indent else indent + 1) rest
          mappingAt? fuel indent ((key, v) :: front) rest
        | some (key, text) => do
          mappingAt? fuel indent ((key, ← inline? text) :: front) rest

end

def isStart (l : Line) : Bool := l.indent == 0 && l.text == "---".toList

/-- A document; an empty one is an empty mapping. -/
def parse? (text : String) : Option Json :=
  let ls := (lines text.toList).filterMap line?
  let body := match ls with
    | l :: rest => if isStart l then rest else l :: rest
    | [] => []
  if body.isEmpty then some (.obj [])
  else
    match block? (4 * text.length + 4) 0 body with
    | some (v, []) => some v
    | _ => none

end Courier.Document.Yaml
