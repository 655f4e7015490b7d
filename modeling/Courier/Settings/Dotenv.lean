import Courier.Settings.Variables
import Courier.Text
/-!
Files of variables: a name, an equals sign and a value on each line.  Values may be quoted, refer to
earlier variables with a dollar sign, and be followed by a comment; a quoted value may run over several
lines.  Reading stops at the first line that is wrong, and keeps what stood before it.
-/
namespace Courier.Settings.Dotenv

/-! ### Lines -/

/-- Where a line is, character by character. -/
inductive Place where
  | plain | escape | weak | weakEscape | strong | strongEscape | blank | comment
  deriving DecidableEq, Repr

def isLineBlank (c : Char) : Bool := Text.isBlank c && c != '\n' && c != '\r'

def opensQuote (c : Char) (otherwise : Place) : Place :=
  if c == '\\' then .escape
  else if c == '"' then .weak
  else if c == '\'' then .strong
  else otherwise

def nextPlace (p : Place) (c : Char) : Place :=
  match p with
  | .blank => if c == '#' then .comment else opensQuote c .plain
  | .plain => if isLineBlank c then .blank else opensQuote c .plain
  | .escape => .plain
  | .weak => if c == '\\' then .weakEscape else if c == '"' then .plain else .weak
  | .weakEscape => .weak
  | .strong => if c == '\\' then .strongEscape else if c == '\'' then .plain else .strong
  | .strongEscape => .strong
  | .comment => .comment

/-- The place after some text, and the text before a comment. -/
def walk (p : Place) (before : List Char) : List Char → Place × List Char
  | [] => (p, before.reverse)
  | c :: rest =>
    match nextPlace p c with
    | .comment => (.comment, before.reverse)
    | q => walk q (c :: before) rest

/-- One physical line with its end, and what follows. -/
def cutLine : List Char → List Char × List Char
  | [] => ([], [])
  | '\n' :: rest => (['\n'], rest)
  | c :: rest =>
    let (line, more) := cutLine rest
    (c :: line, more)

def dropLineEnd (s : List Char) : List Char :=
  match s.reverse with
  | '\n' :: '\r' :: front => front.reverse
  | '\n' :: front => front.reverse
  | _ => s

def startsComment (s : List Char) : Bool := (s.dropWhile Text.isBlank).head? == some '#'

inductive LogicalLine where
  | text (line : List Char)
  /-- The input ends inside a line. -/
  | unfinished
  deriving Repr

/-- One line, or several of them joined by quotes, with what follows it. -/
def logicalLine? (p : Place) (before : List Char) : Nat → List Char →
    Option (LogicalLine × List Char)
  | 0, _ => none
  | fuel + 1, s =>
    match cutLine s with
    | ([], _) => if p == .plain then none else some (.unfinished, [])
    | (line, rest) =>
      let whole := before ++ line
      if startsComment whole then some (.text [], rest)
      else
        match walk p [] line with
        | (.plain, _) => some (.text (dropLineEnd whole), rest)
        | (.comment, shown) => some (.text (before ++ shown), rest)
        | (q, _) => logicalLine? q whole fuel rest

/-! ### Assignments -/

def isNameStart (c : Char) : Bool := Text.isLetter c || c == '_'

def isNameChar (c : Char) : Bool := Text.isLetter c || Text.isDigit c || c == '_' || c == '.'

def skipBlanks (s : List Char) : List Char := s.dropWhile Text.isBlank

def name? (s : List Char) : Option (List Char × List Char) :=
  if s.head?.any isNameStart then some (s.takeWhile isNameChar, s.dropWhile isNameChar) else none

def afterEquals? (s : List Char) : Option (List Char) :=
  match s with
  | '=' :: rest => some rest
  | _ => none

/-- How a reference to a variable is written. -/
inductive Reference where
  | none | bare | braced
  deriving DecidableEq, Repr

structure ValueState where
  strong : Bool := false
  weak : Bool := false
  escaped : Bool := false
  ended : Bool := false
  reference : Reference := .none
  /-- The name that is referred to, backwards. -/
  name : List Char := []
  /-- The value so far, backwards. -/
  output : List Char := []

/-- What a name stands for; an unknown one for nothing. -/
def lookup (known : Variables) (name : List Char) : List Char :=
  ((known.lookup (String.ofList name)).getD "").toList

def ValueState.put (s : ValueState) (c : Char) : ValueState := { s with output := c :: s.output }

/-- Put what the name stands for in its place. -/
def ValueState.resolve (known : Variables) (s : ValueState) : ValueState :=
  { s with output := (lookup known s.name.reverse).reverse ++ s.output, name := [], reference := .none }

def isEscapable (c : Char) : Bool := c == '\\' || c == '\'' || c == '"' || c == '$' || c == ' '

/-- ASCII letters and digits, which make up a bare name. -/
def isReferenceChar (c : Char) : Bool := Text.isLetter c || Text.isDigit c

/-- One character of a value; the flag tells that a comment begins. -/
def valueStep (known : Variables) (s : ValueState) (c : Char) : Option (ValueState × Bool) :=
  if s.ended then
    if c == ' ' || c == '\t' then some (s, false)
    else if c == '#' then some (s, true)
    else none
  else if s.escaped then
    if isEscapable c then some ({ s with escaped := false }.put c, false)
    else if c == 'n' then some ({ s with escaped := false }.put '\n', false)
    else none
  else if s.strong then
    some (if c == '\'' then { s with strong := false } else s.put c, false)
  else if s.reference != .none then
    if isReferenceChar c then some ({ s with name := c :: s.name }, false)
    else if s.reference == .bare then
      if c == '{' && s.name.isEmpty then some ({ s with reference := .braced }, false)
      else
        let s := s.resolve known
        some (if c == '$' then { s with reference := .bare } else s.put c, false)
    else if c == '}' then some (s.resolve known, false)
    else some ({ s with name := c :: s.name }, false)
  else if c == '$' then some ({ s with reference := .bare }, false)
  else if s.weak then
    some (if c == '"' then { s with weak := false }
      else if c == '\\' then { s with escaped := true }
      else s.put c, false)
  else
    some (if c == '\'' then { s with strong := true }
      else if c == '"' then { s with weak := true }
      else if c == '\\' then { s with escaped := true }
      else if c == ' ' || c == '\t' then { s with ended := true }
      else s.put c, false)

def valueFrom? (known : Variables) (s : ValueState) : List Char → Option String
  | [] =>
    if s.reference == .braced || s.strong || s.weak then none
    else some (String.ofList (if s.name.isEmpty then s else s.resolve known).output.reverse)
  | c :: rest =>
    match valueStep known s c with
    | none => none
    | some (s, true) => valueFrom? known s []
    | some (s, false) => valueFrom? known s rest

/-- What one line says: an assignment, or nothing. -/
def assignment? (known : Variables) (line : List Char) : Option (Option (String × String)) := do
  let s := skipBlanks (Text.dropEndWhile Text.isBlank line)
  if s.isEmpty || s.head? == some '#' then return none
  else
    let (name, rest) ← name? s
    let rest := skipBlanks rest
    let (name, rest) ←
      if name == "export".toList then
        match afterEquals? rest with
        | some r => some (name, r)
        | none => do
          let (name, r) ← name? rest
          some (name, ← afterEquals? (skipBlanks r))
      else do some (name, ← afterEquals? rest)
    let rest := skipBlanks rest
    if rest.isEmpty || rest.head? == some '#' then return some (String.ofList name, "")
    else return some (String.ofList name, ← valueFrom? known {} rest)

/-- Assignments line by line.  A variable that is set already keeps its value; the second list has every
assignment, for references. -/
def linesFrom (vars stored : Variables) : Nat → List Char → Variables
  | 0, _ => vars
  | fuel + 1, s =>
    match logicalLine? .plain [] (s.length + 1) s with
    | none => vars
    | some (.unfinished, _) => vars
    | some (.text line, rest) =>
      match assignment? (vars ++ stored) line with
      | none => vars
      | some none => linesFrom vars stored fuel rest
      | some (some (name, value)) =>
        let stored := (name, value) :: stored
        if (vars.lookup name).isSome then linesFrom vars stored fuel rest
        else linesFrom (vars ++ [(name, value)]) stored fuel rest

/-- The variables with those of a file. -/
def load (vars : Variables) (content : String) : Variables :=
  let s := match content.toList with
    | '\uFEFF' :: rest => rest
    | s => s
  linesFrom vars [] (s.length + 1) s

end Courier.Settings.Dotenv
