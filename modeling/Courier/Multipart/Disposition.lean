import Courier.Text
/-!
Attributes of a `Content-Disposition` field.  An attribute's name stands at the start, or after a blank
or a semicolon; its value is in quotes, or runs to the next semicolon or blank.
-/
namespace Courier.Multipart

def isBlankByte (b : UInt8) : Bool :=
  b == 0x20 || b == 0x09 || b == 0x0A || b == 0x0C || b == 0x0D

/-- What may stand right before an attribute. -/
def isSeparator (b : UInt8) : Bool := isBlankByte b || b == 0x3B

/-- The text up to the closing quote; an escaped quote is a quote. -/
def quotedValue? : Bytes → Option Bytes
  | [] => none
  | 0x5C :: 0x22 :: rest => (quotedValue? rest).map (0x22 :: ·)
  | 0x22 :: _ => some []
  | b :: rest => (quotedValue? rest).map (b :: ·)

/-- What an equals sign introduces. -/
def attributeValue? (b : Bytes) : Option Bytes :=
  match b.dropWhile isBlankByte with
  | 0x3D :: rest =>
    match rest.dropWhile isBlankByte with
    | 0x22 :: rest => quotedValue? rest
    | rest => some (rest.takeWhile fun c => c != 0x3B && c != 0x20)
  | _ => none

/-- The value of an attribute.  An occurrence of the name inside a longer word is passed over, and the
text behind it is searched anew; the first that is not decides. -/
def attributeFrom? (name : Bytes) (skip : Nat) (before : Option UInt8) : Bytes → Option Bytes
  | [] => none
  | b :: rest =>
    match skip with
    | k + 1 => attributeFrom? name k none rest
    | 0 =>
      if name.isPrefixOf (b :: rest) then
        if before.all isSeparator then attributeValue? ((b :: rest).drop name.length)
        else attributeFrom? name (name.length - 1) none rest
      else attributeFrom? name 0 (some b) rest

/-- The value of an attribute, as text. -/
def attribute? (name : String) (field : Bytes) : Option String :=
  (attributeFrom? (Text.utf8 name) 0 none field).bind Text.ofUtf8?

end Courier.Multipart
