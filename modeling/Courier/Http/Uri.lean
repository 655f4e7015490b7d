import Courier.Text
/-!
Addresses as a request names them: a path with a query, an authority alone, or a whole address with a
scheme.  A fragment is left out.  Characters beyond ASCII may stand in a path or a query as they are.
-/
namespace Courier.Http

structure Uri where
  scheme : Option String
  authority : Option String
  path : String
  /-- What follows the question mark, if there is one. -/
  query : Option String
  deriving DecidableEq, Repr

namespace Uri

/-- The greatest length in bytes. -/
def lengthLimit : Nat := 65534

/-- The greatest length of a scheme. -/
def schemeLimit : Nat := 64

def inRange (low high : Nat) (c : Char) : Bool := low ≤ c.toNat && c.toNat ≤ high

/-- Characters of a path: visible ones but for the delimiters, `<`, `>`, and the grave accent. -/
def isPathChar (c : Char) : Bool :=
  c == '!' || c == '"' || inRange 0x24 0x3B c || c == '=' || inRange 0x40 0x5F c
    || inRange 0x61 0x7E c || 0x7F ≤ c.toNat

def isQueryChar (c : Char) : Bool :=
  c == '!' || inRange 0x24 0x3B c || c == '=' || 0x3F ≤ c.toNat

/-- Path and query, up to a fragment. -/
def pathAndQuery? (s : List Char) : Option (String × Option String) :=
  let path := s.takeWhile fun c => c != '?' && c != '#'
  if path.all isPathChar then
    match s.dropWhile fun c => c != '?' && c != '#' with
    | '?' :: rest =>
      let query := rest.takeWhile (· != '#')
      if query.all isQueryChar then some (String.ofList path, some (String.ofList query)) else none
    | _ => some (String.ofList path, none)
  else none

/-- Characters of an authority. -/
def isAuthorityChar (c : Char) : Bool :=
  Text.isDigit c || Text.isLetter c
    || ['!', '$', '&', '\'', '(', ')', '*', '+', ',', '-', '.', ':', ';', '=', '@', '[', ']', '_',
      '~'].contains c

/-- What has been seen of an authority, from its start or since the last `@` or closing bracket. -/
structure Seen where
  colons : Nat := 0
  opened : Bool := false
  closed : Bool := false
  percent : Bool := false
  deriving DecidableEq, Repr

/-- The most colons of a bracketed address. -/
def colonLimit : Nat := 8

def see (s : Seen) (c : Char) : Option Seen :=
  if c == ':' then if colonLimit ≤ s.colons then none else some { s with colons := s.colons + 1 }
  else if c == '[' then if s.percent || s.opened then none else some { s with opened := true }
  else if c == ']' then
    if !s.opened || s.closed then none
    else some { s with closed := true, colons := 0, percent := false }
  else if c == '@' then some { s with colons := 0, percent := false }
  else if c == '%' then some { s with percent := true }
  else if isAuthorityChar c then some s
  else none

/-- Host and port, after an optional user part.  Brackets come in a pair, one colon at most is left for
the port, and percent signs stand in the user part only. -/
def isAuthority (s : List Char) : Bool :=
  match s.foldlM see {} with
  | some seen =>
    seen.opened == seen.closed && seen.colons ≤ 1 && s.getLast? != some '@' && !seen.percent
  | none => false

def isAuthorityEnd (c : Char) : Bool := c == '/' || c == '?' || c == '#'

def isSchemeChar (c : Char) : Bool :=
  Text.isDigit c || Text.isLetter c || c == '+' || c == '-' || c == '.' || c == '~'

/-- The scheme that stands before `://`, and what follows. -/
def splitScheme (s : List Char) : Option (List Char × List Char) :=
  match s.dropWhile isSchemeChar with
  | ':' :: '/' :: '/' :: rest => some (s.takeWhile isSchemeChar, rest)
  | _ => none

/-- A scheme known by name is written in lower case. -/
def schemeText (s : List Char) : String :=
  let lowered := Text.lower (String.ofList s)
  if lowered == "http" || lowered == "https" then lowered else String.ofList s

def parseWhole? (s : List Char) : Option Uri :=
  match splitScheme s with
  | none => if isAuthority s then some ⟨none, some (String.ofList s), "", none⟩ else none
  | some (scheme, rest) =>
    let authority := rest.takeWhile fun c => !isAuthorityEnd c
    if schemeLimit < scheme.length || authority.isEmpty || !isAuthority authority then none
    else
      (pathAndQuery? (rest.dropWhile fun c => !isAuthorityEnd c)).map fun p =>
        ⟨some (schemeText scheme), some (String.ofList authority), if p.1 == "" then "/" else p.1, p.2⟩

def parse? (s : String) : Option Uri :=
  if lengthLimit < s.utf8ByteSize then none
  else
    match s.toList with
    | [] => none
    | ['*'] => some ⟨none, none, "*", none⟩
    | '/' :: rest => (pathAndQuery? ('/' :: rest)).map fun p => ⟨none, none, p.1, p.2⟩
    | s => parseWhole? s

def text (u : Uri) : String :=
  let scheme := match u.scheme with
    | some s => s ++ "://"
    | none => ""
  let query := match u.query with
    | some q => "?" ++ q
    | none => ""
  scheme ++ u.authority.getD "" ++ u.path ++ query

end Uri
end Courier.Http
