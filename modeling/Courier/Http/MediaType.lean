import Courier.Http.Headers
/-!
Media types: a type, a subtype with an optional suffix, and parameters.  A parameter's value is a token,
or stands in quotes.
-/
namespace Courier.Http

structure MediaType where
  kind : String
  subtype : String
  suffix : Option String
  parameters : List (String × String)
  /-- As it was written, in normal letter case. -/
  text : String
  deriving DecidableEq, Repr

namespace MediaType

/-- Characters that may stand between quotes. -/
def isQuotable (c : Char) : Bool := 0x20 ≤ c.toNat && c.toNat != 0x7F

/-- The text up to the closing quote, with what follows it.  A backslash takes the next character with
it, and the first character is never the closing quote. -/
def quoted? (first escaped : Bool) : List Char → Option (List Char × List Char)
  | [] => none
  | c :: rest =>
    if c == '"' && !first && !escaped then some ([], rest)
    else if !isQuotable c then none
    else (quoted? false (c == '\\' && !escaped) rest).map fun r => (c :: r.1, r.2)

/-- After a quoted value: blanks, and a semicolon or the end. -/
def afterQuoted? (s : List Char) : Option (List Char) :=
  match s.dropWhile (· == ' ') with
  | [] => some []
  | ';' :: rest => some rest
  | _ => none

/-- A value, with what follows its semicolon. -/
def value? (s : List Char) : Option (List Char × List Char) :=
  match s with
  | '"' :: rest =>
    (quoted? true false rest).bind fun r => (afterQuoted? r.2).map fun after => (r.1, after)
  | _ =>
    match s.takeWhile isTokenChar, s.dropWhile isTokenChar with
    | token, [] => some (token, [])
    | c :: token, ';' :: rest => some (c :: token, rest)
    | _, _ => none

/-- Parameters, of which there are at most as many as `fuel`, with their normal text: names in lower
case, and the value of a character set too. -/
def parameters? : Nat → List Char → Option (List (String × String) × List Char)
  | 0, s => some ([], s)
  | fuel + 1, s =>
    let blanks := s.takeWhile (· == ' ')
    match s.dropWhile (· == ' ') with
    | [] => some ([], blanks)
    | s =>
      match s.takeWhile isTokenChar, s.dropWhile isTokenChar with
      | c :: name, '=' :: rest =>
        (value? rest).bind fun v => (parameters? fuel v.2).map fun more =>
          let name := (c :: name).map Char.toLower
          let written := rest.take (rest.length - v.2.length)
          let written := if name == "charset".toList then written.map Char.toLower else written
          ((String.ofList name, String.ofList v.1) :: more.1,
            blanks ++ name ++ '=' :: written ++ more.2)
      | _, _ => none

/-- Type and subtype ignore case, and so do the names of parameters. -/
def parse? (s : String) : Option MediaType :=
  let s := s.toList
  match s.takeWhile isTokenChar, s.dropWhile isTokenChar with
  | c :: kind, '/' :: rest =>
    let sub := rest.takeWhile isTokenChar
    let name := (sub.take 1) ++ (sub.drop 1).takeWhile (· != '+')
    let suffix := match (sub.drop 1).dropWhile (· != '+') with
      | _ :: tail => some (Text.lower (String.ofList tail))
      | [] => none
    let found (ps : List (String × String)) (tail : List Char) : MediaType :=
      ⟨Text.lower (String.ofList (c :: kind)), Text.lower (String.ofList name), suffix, ps,
        String.ofList ((c :: kind ++ '/' :: sub).map Char.toLower ++ tail)⟩
    match rest.dropWhile isTokenChar with
    | [] => some (found [] [])
    | ';' :: more =>
      if sub.isEmpty then none
      else (parameters? more.length more).map fun ps => found ps.1 (';' :: ps.2)
    | _ => none
  | _, _ => none

/-- First value of a parameter. -/
def parameter? (name : String) (m : MediaType) : Option String := m.parameters.lookup name

def isJson (m : MediaType) : Bool :=
  m.kind == "application" && (m.subtype == "json" || m.suffix == some "json")

def isFormData (m : MediaType) : Bool := m.kind == "multipart" && m.subtype == "form-data"

/-- A boundary has to be named. -/
def boundary? (m : MediaType) : Option String :=
  if m.isFormData then m.parameter? "boundary" else none

end MediaType
end Courier.Http
