/-!
Bytes and text.  A `String` is a sequence of Unicode scalar values; on the wire it is its UTF-8
bytes.  Strict decoding inverts encoding; lossy decoding puts one replacement character for each
maximal ill-formed part.  Letter case is that of ASCII throughout.
-/
namespace Courier

abbrev Bytes := List UInt8

namespace Text

def utf8 (s : String) : Bytes := s.toByteArray.data.toList

def ofUtf8? (b : Bytes) : Option String := String.fromUTF8? ⟨b.toArray⟩

/-- The code point whose high part is `high` and whose next six bits are those of `b`. -/
def shiftIn (high : Nat) (b : UInt8) : Nat := high * 64 + b.toNat % 64

def isContinuation (b : UInt8) : Bool := 0x80 ≤ b && b ≤ 0xBF

/-- Bytes that may follow `lead` in second place; the lead bytes with a narrowed range are those
that would otherwise allow overlong forms, surrogates or values past the last scalar. -/
def isSecond (lead b : UInt8) : Bool :=
  if lead == 0xE0 then 0xA0 ≤ b && b ≤ 0xBF
  else if lead == 0xED then 0x80 ≤ b && b ≤ 0x9F
  else if lead == 0xF0 then 0x90 ≤ b && b ≤ 0xBF
  else if lead == 0xF4 then 0x80 ≤ b && b ≤ 0x8F
  else isContinuation b

/-- Number of bytes that a lead byte announces; zero for a byte that leads nothing. -/
def width (lead : UInt8) : Nat :=
  if lead < 0x80 then 1
  else if lead < 0xC2 then 0
  else if lead < 0xE0 then 2
  else if lead < 0xF0 then 3
  else if lead < 0xF5 then 4
  else 0

/-- Read one character, or give `none` for one ill-formed part; the second component is what is
left of `rest`. -/
def decodeStep (lead : UInt8) (rest : Bytes) : Option Char × Bytes :=
  match width lead, rest with
  | 1, _ => (some (Char.ofNat lead.toNat), rest)
  | 2, b :: r =>
    if isSecond lead b then (some (Char.ofNat (shiftIn (lead.toNat % 32) b)), r) else (none, rest)
  | 3, b :: r =>
    if isSecond lead b then
      match r with
      | c :: r' =>
        if isContinuation c then
          (some (Char.ofNat (shiftIn (shiftIn (lead.toNat % 16) b) c)), r')
        else (none, r)
      | [] => (none, r)
    else (none, rest)
  | 4, b :: r =>
    if isSecond lead b then
      match r with
      | c :: r' =>
        if isContinuation c then
          match r' with
          | d :: r'' =>
            if isContinuation d then
              (some (Char.ofNat (shiftIn (shiftIn (shiftIn (lead.toNat % 8) b) c) d)), r'')
            else (none, r')
          | [] => (none, r')
        else (none, r)
      | [] => (none, r)
    else (none, rest)
  | _, _ => (none, rest)

theorem decodeStep_length (lead : UInt8) (rest : Bytes) :
    (decodeStep lead rest).2.length ≤ rest.length := by
  unfold decodeStep
  repeat' split
  all_goals simp <;> omega

/-- Read to the end with U+FFFD for each ill-formed part. -/
def lossyChars (acc : List Char) : Bytes → List Char
  | [] => acc.reverse
  | lead :: rest =>
    let step := decodeStep lead rest
    lossyChars (step.1.getD '\uFFFD' :: acc) step.2
termination_by b => b.length
decreasing_by simp; have := decodeStep_length lead rest; omega

def lossy (b : Bytes) : String := String.ofList (lossyChars [] b)

/-- Text of bytes that are ASCII by construction. -/
def ofAscii (b : Bytes) : String := String.ofList (b.map fun x => Char.ofNat x.toNat)

def lower (s : String) : String := String.ofList (s.toList.map Char.toLower)

def upper (s : String) : String := String.ofList (s.toList.map Char.toUpper)

/-- `needle` stands somewhere in the text. -/
def hasInfix (needle : List Char) : List Char → Bool
  | [] => needle.isEmpty
  | c :: rest => needle.isPrefixOf (c :: rest) || hasInfix needle rest

def contains (s needle : String) : Bool := hasInfix needle.toList s.toList

def startsWith (s start : String) : Bool := start.toList.isPrefixOf s.toList

/-- The rest of `s` after `start`. -/
def dropStart? (s start : String) : Option String :=
  if startsWith s start then some (String.ofList (s.toList.drop start.toList.length)) else none

/-- Characters with the Unicode property `White_Space`. -/
def isBlank (c : Char) : Bool :=
  let n := c.toNat
  (9 ≤ n && n ≤ 13) || n == 32 || n == 0x85 || n == 0xA0 || n == 0x1680
    || (0x2000 ≤ n && n ≤ 0x200A) || n == 0x2028 || n == 0x2029 || n == 0x202F || n == 0x205F
    || n == 0x3000

def dropEndWhile (p : Char → Bool) (cs : List Char) : List Char :=
  (cs.reverse.dropWhile p).reverse

def trim (s : String) : String :=
  String.ofList (dropEndWhile isBlank (s.toList.dropWhile isBlank))

/-- Every piece between separators, empty ones too. -/
def splitOn (sep : Char) (cs : List Char) : List (List Char) :=
  match cs with
  | [] => [[]]
  | c :: rest =>
    if c == sep then [] :: splitOn sep rest
    else
      match splitOn sep rest with
      | [] => [[c]]
      | piece :: pieces => (c :: piece) :: pieces

/-- `old` becomes `new` at each place where it stands, left to right without overlap. -/
def replaceAll (old new : List Char) (skip : Nat) : List Char → List Char
  | [] => []
  | c :: rest =>
    match skip with
    | k + 1 => replaceAll old new k rest
    | 0 =>
      if !old.isEmpty && old.isPrefixOf (c :: rest) then
        new ++ replaceAll old new (old.length - 1) rest
      else c :: replaceAll old new 0 rest

def replace (s old new : String) : String :=
  String.ofList (replaceAll old.toList new.toList 0 s.toList)

def isDigit (c : Char) : Bool := '0' ≤ c && c ≤ '9'

/-- ASCII letters. -/
def isLetter (c : Char) : Bool := ('a' ≤ c && c ≤ 'z') || ('A' ≤ c && c ≤ 'Z')

def digitValue (c : Char) : Nat := c.toNat - '0'.toNat

/-- The number that a row of decimal digits denotes. -/
def natOfDigits (cs : List Char) : Nat := cs.foldl (fun n c => n * 10 + digitValue c) 0

def hexDigit (n : Nat) : Char :=
  if n < 10 then Char.ofNat ('0'.toNat + n) else Char.ofNat ('a'.toNat + (n - 10))

def upperHexDigit (n : Nat) : Char :=
  if n < 10 then Char.ofNat ('0'.toNat + n) else Char.ofNat ('A'.toNat + (n - 10))

def hexValue? (c : Char) : Option Nat :=
  if isDigit c then some (c.toNat - '0'.toNat)
  else if 'a' ≤ c && c ≤ 'f' then some (c.toNat - 'a'.toNat + 10)
  else if 'A' ≤ c && c ≤ 'F' then some (c.toNat - 'A'.toNat + 10)
  else none

theorem ofUtf8?_utf8 (s : String) : ofUtf8? (utf8 s) = some s := by
  have h : (⟨(utf8 s).toArray⟩ : ByteArray) = s.toByteArray := by simp [utf8]
  simp [ofUtf8?, h, String.fromUTF8?, s.isValidUTF8, String.fromUTF8]

end Text
end Courier
