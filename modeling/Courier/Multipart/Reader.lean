import Courier.Http.MediaType
import Courier.Multipart
import Courier.Multipart.Disposition
import Courier.Text.Charset
/-!
Reading a body in several parts.  Whatever stands before the first delimiter is skipped, and nothing
after the closing one is looked at.  Between two delimiters there is a header block, ended by a blank
line, and the content up to the next delimiter on a line of its own.
-/
namespace Courier.Multipart

structure Piece where
  headers : Http.Headers
  content : Bytes
  deriving DecidableEq, Repr

/-- What stands before the first occurrence of a pattern, and the text from there on. -/
def cutBefore? (pattern front : Bytes) : Bytes → Option (Bytes × Bytes)
  | [] => if pattern.isEmpty then some (front.reverse, []) else none
  | b :: rest =>
    if pattern.isPrefixOf (b :: rest) then some (front.reverse, b :: rest)
    else cutBefore? pattern (b :: front) rest

/-- What follows a text that has to come first. -/
def after? (start b : Bytes) : Option Bytes :=
  if start.isPrefixOf b then some (b.drop start.length) else none

def isSpaceOrTab (b : UInt8) : Bool := b == 0x20 || b == 0x09

def isTokenByte (b : UInt8) : Bool := b < 0x80 && Http.isTokenChar (Char.ofNat b.toNat)

/-- The rest of a line that has to end here. -/
def afterLine? : Bytes → Option Bytes
  | 0x0D :: 0x0A :: rest => some rest
  | 0x0A :: rest => some rest
  | _ => none

/-- One header line, without the blanks around its value. -/
def headerLine? (b : Bytes) : Option ((String × Bytes) × Bytes) :=
  match b.takeWhile isTokenByte, b.dropWhile isTokenByte with
  | c :: name, 0x3A :: rest =>
    let rest := rest.dropWhile isSpaceOrTab
    let value := ((rest.takeWhile Http.isValueByte).reverse.dropWhile isSpaceOrTab).reverse
    (afterLine? (rest.dropWhile Http.isValueByte)).map fun more =>
      ((Text.lower (Text.ofAscii (c :: name)), value), more)
  | _, _ => none

/-- The most header lines of a part. -/
def headerLimit : Nat := 32

/-- Header lines up to an empty one, at most `count` of them; a later line replaces an earlier one of
the same name. -/
def headers? (found : Http.Headers) : Nat → Bytes → Option Http.Headers
  | count, b =>
    match afterLine? b, count with
    | some _, _ => some found
    | none, 0 => none
    | none, count + 1 =>
      match headerLine? b with
      | some (e, rest) => headers? (found.insert e.1 e.2) count rest
      | none => none

def blankLine : Bytes := newline ++ newline

/-- A part from the end of its delimiter on, with what follows its content. -/
def piece? (mark : Bytes) (b : Bytes) : Option (Piece × Bytes) := do
  let b ← after? newline (b.dropWhile isSpaceOrTab)
  let (block, rest) ← cutBefore? blankLine [] b
  let headers ← headers? [] headerLimit (block ++ blankLine)
  let (content, rest) ← cutBefore? (newline ++ mark) [] (rest.drop blankLine.length)
  return (⟨headers, content⟩, rest.drop newline.length)

def closeMark : Bytes := [0x2D, 0x2D]

/-- Parts from a delimiter on, at most as many as `fuel`. -/
def pieces? (mark : Bytes) : Nat → Bytes → Option (List Piece)
  | 0, _ => none
  | fuel + 1, b => do
    let b ← after? mark b
    if closeMark.isPrefixOf b then return []
    else
      let (p, rest) ← piece? mark b
      return p :: (← pieces? mark fuel rest)

/-- The parts of a body. -/
def read? (boundary : String) (body : Bytes) : Option (List Piece) :=
  let mark := closeMark ++ Text.utf8 boundary
  match cutBefore? mark [] body with
  | some (_, b) => pieces? mark (b.length + 1) b
  | none => none

namespace Piece

def disposition (p : Piece) : Bytes := (p.headers.get? "content-disposition").getD []

def name (p : Piece) : String := (attribute? "name" p.disposition).getD ""

/-- A part with a file name is a file. -/
def fileName? (p : Piece) : Option String := attribute? "filename" p.disposition

def mediaType? (p : Piece) : Option Http.MediaType :=
  (p.headers.text? "content-type").bind Http.MediaType.parse?

/-- The content as text of the declared character set. -/
def text (p : Piece) : String :=
  let declared := ((p.mediaType?.bind fun m => m.parameter? "charset").bind Charset.ofLabel?)
  (declared.getD .utf8).decode p.content

end Piece
end Courier.Multipart
