import Courier.Document.Lexical
/-!
Documents in TOML: keys and values on lines of their own, under headings that name tables.  A key is set
once.  Dates are kept as the text that they are.
-/
namespace Courier.Document.Toml

/-! ### Strings -/

/-- The character that a backslash introduces. -/
def escape? : Chars → Option (Char × Chars)
  | 'b' :: r => some ('\x08', r)
  | 't' :: r => some ('\t', r)
  | 'n' :: r => some ('\n', r)
  | 'f' :: r => some ('\x0c', r)
  | 'r' :: r => some ('\r', r)
  | '"' :: r => some ('"', r)
  | '\\' :: r => some ('\\', r)
  | 'u' :: r => hexChar? 4 r
  | 'U' :: r => hexChar? 8 r
  | _ => none

/-- Up to the quote that closes a text on one line. -/
def basic? : Nat → Chars → Chars → Option (Chars × Chars)
  | 0, _, _ => none
  | fuel + 1, front, s =>
    match s with
    | [] => none
    | '"' :: rest => some (front.reverse, rest)
    | '\\' :: rest => (escape? rest).bind fun r => basic? fuel (r.1 :: front) r.2
    | c :: rest => if c == '\n' || c == '\r' then none else basic? fuel (c :: front) rest

/-- Up to three quotes; a backslash at the end of a line takes all blanks after it along. -/
def multiBasic? : Nat → Chars → Chars → Option (Chars × Chars)
  | 0, _, _ => none
  | fuel + 1, front, s =>
    match s with
    | [] => none
    | '"' :: '"' :: '"' :: '"' :: '"' :: rest => some (front.reverse ++ ['"', '"'], rest)
    | '"' :: '"' :: '"' :: '"' :: rest => some (front.reverse ++ ['"'], rest)
    | '"' :: '"' :: '"' :: rest => some (front.reverse, rest)
    | '\\' :: rest =>
      match skipSpaces rest with
      | '\n' :: r => multiBasic? fuel front (r.dropWhile Text.isBlank)
      | '\r' :: '\n' :: r => multiBasic? fuel front (r.dropWhile Text.isBlank)
      | _ => (escape? rest).bind fun r => multiBasic? fuel (r.1 :: front) r.2
    | '\r' :: '\n' :: rest => multiBasic? fuel ('\n' :: front) rest
    | c :: rest => multiBasic? fuel (c :: front) rest

def literal? (front : Chars) : Chars → Option (Chars × Chars)
  | [] => none
  | '\'' :: rest => some (front.reverse, rest)
  | c :: rest => if c == '\n' || c == '\r' then none else literal? (c :: front) rest

def multiLiteral? (front : Chars) : Chars → Option (Chars × Chars)
  | [] => none
  | '\'' :: '\'' :: '\'' :: rest => some (front.reverse, rest)
  | c :: rest => multiLiteral? (c :: front) rest

def dropFirstEnd : Chars → Chars
  | '\n' :: rest => rest
  | '\r' :: '\n' :: rest => rest
  | s => s

/-- A text in quotes of either kind. -/
def string? (s : Chars) : Option (Chars × Chars) :=
  match s with
  | '"' :: '"' :: '"' :: rest => multiBasic? (s.length + 1) [] (dropFirstEnd rest)
  | '"' :: rest => basic? (s.length + 1) [] rest
  | '\'' :: '\'' :: '\'' :: rest => multiLiteral? [] (dropFirstEnd rest)
  | '\'' :: rest => literal? [] rest
  | _ => none

/-! ### Keys -/

def isBareChar (c : Char) : Bool := Text.isLetter c || Text.isDigit c || c == '_' || c == '-'

def keyPart? (s : Chars) : Option (String × Chars) :=
  match s with
  | '"' :: rest => (basic? (s.length + 1) [] rest).map fun r => (String.ofList r.1, r.2)
  | '\'' :: rest => (literal? [] rest).map fun r => (String.ofList r.1, r.2)
  | _ =>
    match s.takeWhile isBareChar with
    | [] => none
    | name => some (String.ofList name, s.dropWhile isBareChar)

/-- Names joined by dots. -/
def key? : Nat → Chars → Option (List String × Chars)
  | 0, _ => none
  | fuel + 1, s => do
    let (name, rest) ← keyPart? (skipSpaces s)
    match skipSpaces rest with
    | '.' :: more => do
      let (names, rest) ← key? fuel more
      some (name :: names, rest)
    | rest => some ([name], rest)

/-! ### Numbers and other words -/

/-- Underscores stand between digits only. -/
def dropMarks? (before : Bool) : Chars → Option Chars
  | [] => if before then some [] else none
  | '_' :: rest => if before && !rest.isEmpty then dropMarks? false rest else none
  | c :: rest => (dropMarks? true rest).map (c :: ·)

def noLeadingZero (ds : Chars) : Bool := ds.length ≤ 1 || ds.head? != some '0'

def decimal? (negative : Bool) (ds : Chars) : Option Json :=
  if ds.all Text.isDigit then if noLeadingZero ds then wholeIn? 10 negative ds else none
  else
    let whole := ds.takeWhile Text.isDigit
    let fraction := match ds.dropWhile Text.isDigit with
      | '.' :: rest => rest.head?.any Text.isDigit
      | _ => true
    if whole.isEmpty || !noLeadingZero whole || !fraction then none
    else (Double.unsigned? negative ds).map .double

def number? (s : Chars) : Option Json :=
  let (signed, negative, body) := match s with
    | '-' :: rest => (true, true, rest)
    | '+' :: rest => (true, false, rest)
    | _ => (false, false, s)
  if body == "inf".toList then some (.double (Double.infinity negative))
  else if body == "nan".toList then some (.double Double.nan)
  else
    match body with
    | '0' :: 'x' :: ds => if signed then none else (dropMarks? false ds).bind (wholeIn? 16 false)
    | '0' :: 'o' :: ds => if signed then none else (dropMarks? false ds).bind (wholeIn? 8 false)
    | '0' :: 'b' :: ds => if signed then none else (dropMarks? false ds).bind (wholeIn? 2 false)
    | ds => (dropMarks? false ds).bind (decimal? negative)

def isDate (s : Chars) : Bool :=
  let ds := s.takeWhile Text.isDigit
  let next := (s.dropWhile Text.isDigit).head?
  s.all (fun c => Text.isDigit c || ['-', ':', 'T', 't', 'Z', 'z', '.', '+'].contains c)
    && ((ds.length == 4 && next == some '-') || (ds.length == 2 && next == some ':'))

def word? (s : Chars) : Option Json :=
  if s == "true".toList then some (.bool true)
  else if s == "false".toList then some (.bool false)
  else if isDate s then some (.str (String.ofList s))
  else number? s

def isWordChar (c : Char) : Bool := isBareChar c || c == '+' || c == '.' || c == ':'

/-! ### Values -/

/-- Put a value under a key that is not there yet. -/
def setNew? (value : Json) (t : Json) : List String → Option Json
  | [] => none
  | [name] =>
    match t with
    | .obj fields =>
      if Table.has name fields then none else some (.obj (Table.insert name value fields))
    | _ => none
  | name :: names =>
    match t with
    | .obj fields => do
      let below ← setNew? value ((Table.get? name fields).getD (.obj [])) names
      some (.obj (Table.insert name below fields))
    | _ => none

def dropComment (s : Chars) : Chars :=
  match skipSpaces s with
  | '#' :: rest => rest.dropWhile (· != '\n')
  | rest => rest

/-- Blanks, comments and ends of line between the items of a list. -/
def skipGap : Nat → Chars → Chars
  | 0, s => s
  | fuel + 1, s =>
    match dropComment s with
    | '\n' :: rest => skipGap fuel rest
    | '\r' :: '\n' :: rest => skipGap fuel rest
    | rest => rest

mutual

def value? : Nat → Chars → Option (Json × Chars)
  | 0, _ => none
  | fuel + 1, s =>
    match s with
    | '[' :: rest => items? fuel [] rest
    | '{' :: rest =>
      match skipSpaces rest with
      | '}' :: rest => some (.obj [], rest)
      | rest => members? fuel (.obj []) rest
    | c :: _ =>
      if c == '"' || c == '\'' then (string? s).map fun r => (.str (String.ofList r.1), r.2)
      else (word? (s.takeWhile isWordChar)).map fun v => (v, s.dropWhile isWordChar)
    | [] => none

def items? : Nat → List Json → Chars → Option (Json × Chars)
  | 0, _, _ => none
  | fuel + 1, front, s =>
    match skipGap (s.length + 1) s with
    | ']' :: rest => some (.arr front.reverse, rest)
    | s => do
      let (v, rest) ← value? fuel s
      match skipGap (rest.length + 1) rest with
      | ',' :: rest => items? fuel (v :: front) rest
      | ']' :: rest => some (.arr (v :: front).reverse, rest)
      | _ => none

def members? : Nat → Json → Chars → Option (Json × Chars)
  | 0, _, _ => none
  | fuel + 1, t, s => do
    let (names, rest) ← key? (s.length + 1) s
    match rest with
    | '=' :: rest => do
      let (v, rest) ← value? fuel (skipSpaces rest)
      let t ← setNew? v t names
      match skipSpaces rest with
      | ',' :: rest => members? fuel t rest
      | '}' :: rest => some (t, rest)
      | _ => none
    | _ => none

end

/-! ### Documents -/

/-- What follows the end of a line; only a comment may stand before it. -/
def lineEnd? (s : Chars) : Option Chars :=
  match dropComment s with
  | [] => some []
  | '\n' :: rest => some rest
  | '\r' :: '\n' :: rest => some rest
  | _ => none

/-- Change the table at the end of a path, making those on the way; in a list of tables the last counts. -/
def atTable? (change : Json → Option Json) (t : Json) : List String → Option Json
  | [] =>
    match t with
    | .obj _ => change t
    | .arr items =>
      items.getLast?.bind fun last => (change last).map fun new => .arr (items.dropLast ++ [new])
    | _ => none
  | name :: names =>
    let step (table : Json) : Option Json :=
      match table with
      | .obj fields => do
        let below ← atTable? change ((Table.get? name fields).getD (.obj [])) names
        some (.obj (Table.insert name below fields))
      | _ => none
    match t with
    | .arr items =>
      items.getLast?.bind fun last => (step last).map fun new => .arr (items.dropLast ++ [new])
    | _ => step t

/-- Add an empty table to the list at the end of a path. -/
def addTable? (t : Json) (path : List String) : Option Json :=
  match path.getLast? with
  | none => none
  | some name =>
    atTable? (fun table =>
      match table with
      | .obj fields =>
        match Table.get? name fields with
        | none => some (.obj (Table.insert name (.arr [.obj []]) fields))
        | some (.arr items) => some (.obj (Table.insert name (.arr (items ++ [.obj []])) fields))
        | some _ => none
      | _ => none) t path.dropLast

structure State where
  root : Json := .obj []
  current : List String := []
  /-- Headings that were used. -/
  headings : List (List String) := []

def statement? (st : State) (s : Chars) : Option (State × Chars) :=
  match s with
  | '[' :: '[' :: rest => do
    let (path, rest) ← key? (rest.length + 1) rest
    match rest with
    | ']' :: ']' :: rest =>
      let root ← addTable? st.root path
      some ({ st with root := root, current := path }, rest)
    | _ => none
  | '[' :: rest => do
    let (path, rest) ← key? (rest.length + 1) rest
    match rest with
    | ']' :: rest =>
      if st.headings.contains path then none
      else
        let root ← atTable? some st.root path
        some ({ root := root, current := path, headings := path :: st.headings }, rest)
    | _ => none
  | _ => do
    let (names, rest) ← key? (s.length + 1) s
    match rest with
    | '=' :: rest => do
      let (v, rest) ← value? (rest.length + 1) (skipSpaces rest)
      let root ← atTable? (fun table => setNew? v table names) st.root st.current
      some ({ st with root := root }, rest)
    | _ => none

def document? (st : State) : Nat → Chars → Option Json
  | 0, _ => none
  | fuel + 1, s =>
    match skipGap (s.length + 1) s with
    | [] => some st.root
    | s => do
      let (st, rest) ← statement? st s
      document? st fuel (← lineEnd? rest)

def parse? (text : String) : Option Json := document? {} (text.toList.length + 1) text.toList

end Courier.Document.Toml
