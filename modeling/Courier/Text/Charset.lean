import Courier.Text
/-!
Character sets in which text may be declared, by their labels.  A byte order mark overrides what is
declared and is not part of the text; ill-formed input becomes U+FFFD.
-/
namespace Courier

inductive Charset where
  | utf8
  /-- Latin letters, one byte each. -/
  | latin
  /-- Units of two bytes. -/
  | utf16 (highFirst : Bool)
  deriving DecidableEq, Repr

namespace Charset

def utf8Labels : List String :=
  ["unicode-1-1-utf-8", "unicode11utf8", "unicode20utf8", "utf-8", "utf8", "x-unicode20utf8"]

def latinLabels : List String :=
  ["ansi_x3.4-1968", "ascii", "cp1252", "cp819", "csisolatin1", "ibm819", "iso-8859-1",
    "iso-ir-100", "iso8859-1", "iso88591", "iso_8859-1", "iso_8859-1:1987", "l1", "latin1",
    "us-ascii", "windows-1252", "x-cp1252"]

def highFirstLabels : List String := ["unicodefffe", "utf-16be"]

def lowFirstLabels : List String :=
  ["csunicode", "iso-10646-ucs-2", "ucs-2", "unicode", "unicodefeff", "utf-16", "utf-16le"]

/-- The set of a label; letter case does not matter. -/
def ofLabel? (label : String) : Option Charset :=
  let l := Text.lower (Text.trim label)
  if utf8Labels.contains l then some .utf8
  else if latinLabels.contains l then some .latin
  else if highFirstLabels.contains l then some (.utf16 true)
  else if lowFirstLabels.contains l then some (.utf16 false)
  else none

/-- The characters of the bytes from 80 to 9F. -/
def latinUpper : List Nat :=
  [0x20AC, 0x81, 0x201A, 0x192, 0x201E, 0x2026, 0x2020, 0x2021, 0x2C6, 0x2030, 0x160, 0x2039, 0x152,
    0x8D, 0x17D, 0x8F, 0x90, 0x2018, 0x2019, 0x201C, 0x201D, 0x2022, 0x2013, 0x2014, 0x2DC, 0x2122,
    0x161, 0x203A, 0x153, 0x9D, 0x17E, 0x178]

def latinChar (b : UInt8) : Char :=
  if 0x80 ≤ b && b < 0xA0 then Char.ofNat (latinUpper.getD (b.toNat - 0x80) 0xFFFD)
  else Char.ofNat b.toNat

def unit (highFirst : Bool) (a b : UInt8) : Nat :=
  if highFirst then a.toNat * 256 + b.toNat else b.toNat * 256 + a.toNat

def isHigh (u : Nat) : Bool := 0xD800 ≤ u && u < 0xDC00

def isLow (u : Nat) : Bool := 0xDC00 ≤ u && u < 0xE000

/-- Units; one byte that is left over is ill-formed. -/
def units (highFirst : Bool) : Bytes → List (Option Nat)
  | a :: b :: rest => some (unit highFirst a b) :: units highFirst rest
  | [_] => [none]
  | [] => []

/-- A pair of surrogates is one character; a lone one is ill-formed. -/
def unitChars : List (Option Nat) → List Char
  | [] => []
  | none :: rest => '\uFFFD' :: unitChars rest
  | some u :: rest =>
    if isHigh u then
      match rest with
      | some v :: more =>
        if isLow v then
          Char.ofNat (0x10000 + (u - 0xD800) * 0x400 + (v - 0xDC00)) :: unitChars more
        else '\uFFFD' :: unitChars (some v :: more)
      | rest => '\uFFFD' :: unitChars rest
    else if isLow u then '\uFFFD' :: unitChars rest
    else Char.ofNat u :: unitChars rest

/-- Text in a set that no mark overrides. -/
def read (c : Charset) (b : Bytes) : String :=
  match c with
  | .utf8 => Text.lossy b
  | .latin => String.ofList (b.map latinChar)
  | .utf16 highFirst => String.ofList (unitChars (units highFirst b))

def decode (c : Charset) (b : Bytes) : String :=
  match b with
  | 0xEF :: 0xBB :: 0xBF :: rest => read .utf8 rest
  | 0xFE :: 0xFF :: rest => read (.utf16 true) rest
  | 0xFF :: 0xFE :: rest => read (.utf16 false) rest
  | b => read c b

end Charset
end Courier
