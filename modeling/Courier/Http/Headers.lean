import Courier.Text
/-!
Header fields.  Names are tokens in lower case and values are bytes without controls other than the
tab, so a `Headers` list can be written on the wire as it stands.  A name may have several values;
`insert` replaces them all, `append` adds one.
-/
namespace Courier.Http

/-- Characters of a token. -/
def isTokenChar (c : Char) : Bool :=
  ('a' ≤ c && c ≤ 'z') || ('A' ≤ c && c ≤ 'Z') || ('0' ≤ c && c ≤ '9')
    || ['!', '#', '$', '%', '&', '\'', '*', '+', '-', '.', '^', '_', Char.ofNat 0x60, '|', '~'].contains c

def isToken (s : String) : Bool := s != "" && s.toList.all isTokenChar

/-- The longest name that is accepted. -/
def nameLimit : Nat := 65535

/-- The stored form of a name, if it is one. -/
def headerName? (s : String) : Option String :=
  if isToken s && s.utf8ByteSize ≤ nameLimit then some (Text.lower s) else none

def isValueByte (b : UInt8) : Bool := b == 0x09 || (0x20 ≤ b && b != 0x7F)

def isLegalValue (v : Bytes) : Bool := v.all isValueByte

/-- Bytes that text may be read from. -/
def isVisibleByte (b : UInt8) : Bool := b == 0x09 || (0x20 ≤ b && b < 0x7F)

/-- The text of a value that is visible ASCII. -/
def visible? (v : Bytes) : Option String :=
  if v.all isVisibleByte then some (Text.ofAscii v) else none

/-- Names with their values, in the order in which they were added. -/
abbrev Headers := List (String × Bytes)

namespace Headers

/-- First value of a name. -/
def get? (name : String) : Headers → Option Bytes
  | [] => none
  | (n, v) :: rest => if n = name then some v else get? name rest

def getAll (name : String) (h : Headers) : List Bytes :=
  (h.filter fun e => e.1 == name).map Prod.snd

def has (name : String) (h : Headers) : Bool := (get? name h).isSome

/-- First value of a name as visible text. -/
def text? (name : String) (h : Headers) : Option String := (get? name h).bind visible?

def append (name : String) (value : Bytes) (h : Headers) : Headers := h ++ [(name, value)]

def remove (name : String) (h : Headers) : Headers := h.filter fun e => e.1 != name

/-- The value takes the place of all values of the name. -/
def insert (name : String) (value : Bytes) : Headers → Headers
  | [] => [(name, value)]
  | (n, v) :: rest => if n = name then (name, value) :: remove name rest
    else (n, v) :: insert name value rest

def insertText (name value : String) (h : Headers) : Headers := insert name (Text.utf8 value) h

/-- Inserted only if the text is a legal value. -/
def tryInsertText (name value : String) (h : Headers) : Headers :=
  if isLegalValue (Text.utf8 value) then insertText name value h else h

end Headers
end Courier.Http
