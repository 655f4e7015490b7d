import Courier.Form
/-!
Which addresses a call can be sent to over HTTP: those with a scheme of HTTP, a host and, where there is
one, a port.  Blanks and controls around an address do not count, nor do line ends and tabs in it, and a
backslash is as good as a slash.
-/
namespace Courier.Http.Url

def isControlOrBlank (c : Char) : Bool := c.toNat ≤ 0x20

def isSkipped (c : Char) : Bool := c == '\t' || c == '\n' || c == '\r'

def cleaned (s : List Char) : List Char :=
  (Text.dropEndWhile isControlOrBlank (s.dropWhile isControlOrBlank)).filter fun c => !isSkipped c

def isSchemeChar (c : Char) : Bool :=
  Text.isLetter c || Text.isDigit c || c == '+' || c == '-' || c == '.'

/-- The scheme in lower case, and what follows its colon. -/
def splitScheme (s : List Char) : Option (String × List Char) :=
  match s.dropWhile isSchemeChar with
  | ':' :: rest => some (Text.lower (String.ofList (s.takeWhile isSchemeChar)), rest)
  | _ => none

def isSlash (c : Char) : Bool := c == '/' || c == '\\'

def isAuthorityEnd (c : Char) : Bool := isSlash c || c == '?' || c == '#'

/-- What follows the last `@`; all of it where there is none. -/
def afterUser (s : List Char) : List Char := (s.reverse.takeWhile (· != '@')).reverse

/-- The host, up to a colon outside brackets, and what follows the colon. -/
def splitPort (inside : Bool) : List Char → List Char × Option (List Char)
  | [] => ([], none)
  | c :: rest =>
    if c == ':' && !inside then ([], some rest)
    else
      let r := splitPort (if c == '[' then true else if c == ']' then false else inside) rest
      (c :: r.1, r.2)

def isPort (s : List Char) : Bool := s.all Text.isDigit && Text.natOfDigits s < 65536

/-- Characters that no domain has. -/
def isForbidden (c : Char) : Bool :=
  c.toNat ≤ 0x20 || c.toNat == 0x7F
    || ['#', '/', ':', '<', '>', '?', '@', '[', '\\', ']', '^', '|', '%'].contains c

def digitIn? (base : Nat) (c : Char) : Option Nat :=
  (Text.hexValue? c).filter fun d => d < base

def numberIn? (base : Nat) (s : List Char) : Option Nat :=
  s.foldlM (fun n c => (digitIn? base c).map fun d => n * base + d) 0

/-- A part of a numeric host: decimal, or after `0x` hexadecimal, or after `0` octal. -/
def hostNumber? (s : List Char) : Option Nat :=
  match s with
  | [] => none
  | '0' :: 'x' :: rest => numberIn? 16 rest
  | '0' :: 'X' :: rest => numberIn? 16 rest
  | '0' :: d :: rest => numberIn? 8 (d :: rest)
  | s => numberIn? 10 s

/-- Labels of a host; one dot at its end does not count. -/
def labels (host : List Char) : List (List Char) :=
  let all := Text.splitOn '.' host
  if 1 < all.length && all.getLast? == some [] then all.dropLast else all

def endsInNumber (host : List Char) : Bool :=
  match (labels host).getLast? with
  | some last => (!last.isEmpty && last.all Text.isDigit) || (hostNumber? last).isSome
  | none => false

/-- Up to four numbers; the last one fills what the others leave of four bytes. -/
def isNumericHost (host : List Char) : Bool :=
  match (labels host).mapM hostNumber? with
  | some numbers =>
    numbers.length ≤ 4 && numbers.dropLast.all (· < 256)
      && numbers.getLast?.all fun n => n < Nat.pow 256 (5 - numbers.length)
  | none => false

def isHexGroup (s : List Char) : Bool :=
  !s.isEmpty && s.length ≤ 4 && s.all fun c => (Text.hexValue? c).isSome

/-- A number below 256 in decimal without a zero in front. -/
def isByteText (s : List Char) : Bool :=
  !s.isEmpty && s.all Text.isDigit && Text.natOfDigits s < 256 && (s.length == 1 || s.head? != some '0')

def isDotted (s : List Char) : Bool :=
  let parts := Text.splitOn '.' s
  parts.length == 4 && parts.all isByteText

/-- How many groups of sixteen bits stand in a list of groups, if all are well formed.  The last one
may be four bytes in dotted form. -/
def groupCount? : List (List Char) → Option Nat
  | [] => some 0
  | [last] => if isHexGroup last then some 1 else if isDotted last then some 2 else none
  | g :: rest => if isHexGroup g then (groupCount? rest).map (· + 1) else none

/-- The text before and after the first `::`. -/
def splitGap : List Char → Option (List Char × List Char)
  | ':' :: ':' :: rest => some ([], rest)
  | c :: rest => (splitGap rest).map fun r => (c :: r.1, r.2)
  | [] => none

def groups (s : List Char) : List (List Char) := if s.isEmpty then [] else Text.splitOn ':' s

/-- Eight groups, or fewer with one gap. -/
def isBracketedHost (s : List Char) : Bool :=
  match splitGap s with
  | none => groupCount? (groups s) == some 8
  | some (front, back) =>
    (groups front).all isHexGroup
      && (groupCount? (groups back)).any fun n => (groups front).length + n ≤ 7

def isHost (s : List Char) : Bool :=
  match s with
  | [] => false
  | '[' :: rest => rest.getLast? == some ']' && isBracketedHost rest.dropLast
  | s =>
    let host := (Text.lossy (Form.percentDecode (Text.utf8 (String.ofList s)))).toList
    !host.isEmpty && !host.any isForbidden && (!endsInNumber host || isNumericHost host)

def isAuthority (s : List Char) : Bool :=
  let (host, port) := splitPort false (afterUser s)
  isHost host && port.all isPort

def isUsable (url : String) : Bool :=
  match splitScheme (cleaned url.toList) with
  | some (scheme, rest) =>
    (scheme == "http" || scheme == "https")
      && isAuthority ((rest.dropWhile isSlash).takeWhile fun c => !isAuthorityEnd c)
  | none => false

end Courier.Http.Url
