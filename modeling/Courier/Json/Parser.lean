import Courier.Json
import Courier.Text
/-!
Reading JSON.  Values nest at most 127 deep.  Integers that fit 64 bits, signed or unsigned, stay
integers; every other number becomes a double by one multiplication or division of its first
nineteen or so digits by a power of ten, which is not always the nearest double.  Of repeated keys
the last one wins.  `lexeme?` cuts one value off without interpreting it.
-/
namespace Courier.Json

def nestingLimit : Nat := 127

def isSpace (b : UInt8) : Bool := b == 0x20 || b == 0x0A || b == 0x0D || b == 0x09

def skipSpace : Bytes → Bytes
  | [] => []
  | b :: rest => if isSpace b then skipSpace rest else b :: rest

def isDigitByte (b : UInt8) : Bool := 0x30 ≤ b && b ≤ 0x39

/-! ### Strings -/

def hexNibble? (b : UInt8) : Option Nat := Text.hexValue? (Char.ofNat b.toNat)

def hexQuad? : Bytes → Option (Nat × Bytes)
  | a :: b :: c :: d :: rest =>
    match hexNibble? a, hexNibble? b, hexNibble? c, hexNibble? d with
    | some w, some x, some y, some z => some (((w * 16 + x) * 16 + y) * 16 + z, rest)
    | _, _, _, _ => none
  | _ => none

/-- The byte that a one-letter escape stands for. -/
def shortEscape? (b : UInt8) : Option UInt8 :=
  if b == 0x22 then some 0x22
  else if b == 0x5C then some 0x5C
  else if b == 0x2F then some 0x2F
  else if b == 0x62 then some 0x08
  else if b == 0x66 then some 0x0C
  else if b == 0x6E then some 0x0A
  else if b == 0x72 then some 0x0D
  else if b == 0x74 then some 0x09
  else none

/-- The character of a `\u` escape, after its first `u`.  The two halves of a surrogate pair must
follow each other. -/
def unicodeEscape? (input : Bytes) : Option (Char × Bytes) :=
  match hexQuad? input with
  | none => none
  | some (n, rest) =>
    if 0xD800 ≤ n && n ≤ 0xDBFF then
      match rest with
      | b :: c :: rest' =>
        if b == 0x5C && c == 0x75 then
          match hexQuad? rest' with
          | some (m, rest'') =>
            if 0xDC00 ≤ m && m ≤ 0xDFFF then
              some (Char.ofNat ((n - 0xD800) * 0x400 + (m - 0xDC00) + 0x10000), rest'')
            else none
          | none => none
        else none
      | _ => none
    else if 0xDC00 ≤ n && n ≤ 0xDFFF then none
    else some (Char.ofNat n, rest)

/-- The content of a string after its opening quote; `acc` holds it in reverse. -/
def stringBody (acc : Bytes) : Nat → Bytes → Option (Bytes × Bytes)
  | 0, _ => none
  | _ + 1, [] => none
  | n + 1, b :: rest =>
    if b == 0x22 then some (acc.reverse, rest)
    else if b == 0x5C then
      match rest with
      | [] => none
      | e :: rest' =>
        if e == 0x75 then
          match unicodeEscape? rest' with
          | some (c, rest'') => stringBody ((String.utf8EncodeChar c).reverse ++ acc) n rest''
          | none => none
        else
          match shortEscape? e with
          | some x => stringBody (x :: acc) n rest'
          | none => none
    else if b < 0x20 then none
    else stringBody (b :: acc) n rest

/-- A string after its opening quote. -/
def string? (input : Bytes) : Option (String × Bytes) :=
  match stringBody [] (input.length + 1) input with
  | some (content, rest) => (Text.ofUtf8? content).map fun s => (s, rest)
  | none => none

/-! ### Numbers -/

/-- The parts of a number as written. -/
structure Numeral where
  negative : Bool
  whole : List Nat
  fraction : Option (List Nat)
  exponent : Option (Bool × List Nat)
  deriving DecidableEq, Repr

def takeDigits : Bytes → List Nat × Bytes
  | [] => ([], [])
  | b :: rest =>
    if isDigitByte b then
      let r := takeDigits rest
      ((b.toNat - 0x30) :: r.1, r.2)
    else ([], b :: rest)

def exponentPart? : Bytes → Option (Option (Bool × List Nat) × Bytes)
  | [] => some (none, [])
  | b :: rest =>
    if b == 0x65 || b == 0x45 then
      let signed := match rest with
        | s :: rest' =>
          if s == 0x2B then (true, rest') else if s == 0x2D then (false, rest') else (true, rest)
        | [] => (true, rest)
      match takeDigits signed.2 with
      | ([], _) => none
      | (ds, rest') => some (some (signed.1, ds), rest')
    else some (none, b :: rest)

def fractionPart? : Bytes → Option (Option (List Nat) × Bytes)
  | [] => some (none, [])
  | b :: rest =>
    if b == 0x2E then
      match takeDigits rest with
      | ([], _) => none
      | (ds, rest') => some (some ds, rest')
    else some (none, b :: rest)

/-- A number by the grammar: no leading zeros, a digit on both sides of a point. -/
def numeral? (input : Bytes) : Option (Numeral × Bytes) :=
  let signed := match input with
    | b :: rest => if b == 0x2D then (true, rest) else (false, input)
    | [] => (false, input)
  match takeDigits signed.2 with
  | ([], _) => none
  | (0 :: _ :: _, _) => none
  | (whole, rest) =>
    match fractionPart? rest with
    | none => none
    | some (fraction, rest') =>
      match exponentPart? rest' with
      | none => none
      | some (exponent, rest'') => some (⟨signed.1, whole, fraction, exponent⟩, rest'')

/-- Digits enter `start` as long as the result stays below `Word.size64`; the second component counts
the digits that were taken, the third tells whether all were. -/
def accumulate (start : Nat) : List Nat → Nat × Nat × Bool
  | [] => (start, 0, true)
  | d :: ds =>
    if start * 10 + d < Word.size64 then
      let r := accumulate (start * 10 + d) ds
      (r.1, r.2.1 + 1, r.2.2)
    else (start, 0, false)

/-- Exponents whose digits pass this bound count as infinite. -/
def exponentLimit : Nat := 2147483647

def natOf (ds : List Nat) : Nat := ds.foldl (fun n d => n * 10 + d) 0

/-- Divide by `10 ^ 308` until the exponent is within the table of powers. -/
def scaleDown (f : Double) (exponent : Nat) : Nat → Double
  | 0 => f
  | n + 1 =>
    if exponent ≤ 308 then f.div (.pow10 exponent)
    else if f.isZero then f
    else scaleDown (f.div (.pow10 308)) (exponent - 308) n

/-- `significand · 10 ^ exponent`, or `none` on overflow. -/
def scale? (significand : Nat) (exponent : Int) : Option Double :=
  let f := Double.ofNat significand
  match exponent with
  | .ofNat e =>
    if e ≤ 308 then
      let r := f.mul (.pow10 e)
      if r.isFinite then some r else none
    else if f.isZero then some f else none
  | .negSucc e => some (scaleDown f (e + 1) (e + 1))

/-- The double of a number that is not kept as an integer. -/
def Numeral.double? (n : Numeral) : Option Double :=
  let w := accumulate 0 n.whole
  let dropped : Int := (n.whole.length : Int) - w.2.1
  let fraction := n.fraction.getD []
  let f := accumulate w.1 fraction
  let start : Int := dropped - f.2.1
  let magnitude : Option Double :=
    match n.exponent with
    | none => scale? f.1 start
    | some (positive, ds) =>
      let e := natOf ds
      if exponentLimit < e then
        if f.1 != 0 && positive then none else some (.zero false)
      else scale? f.1 (if positive then start + e else start - e)
  magnitude.map fun x => if n.negative then x.negate else x

/-- The value of a number. -/
def Numeral.value? (n : Numeral) : Option Json :=
  let whole := natOf n.whole
  let asInt : Int := if n.negative then -(whole : Int) else whole
  if n.fraction.isNone && n.exponent.isNone && lowestInt ≤ asInt && asInt ≤ highestInt
      && !(n.negative && whole == 0) then
    some (.int asInt)
  else n.double?.map .double

/-! ### Values -/

/-- `word` at the start of the input. -/
def dropWord? (word input : Bytes) : Option Bytes :=
  if word.isPrefixOf input then some (input.drop word.length) else none

mutual

/-- One value, `depth` levels of nesting allowed. -/
def value? : Nat → Nat → Bytes → Option (Json × Bytes)
  | 0, _, _ => none
  | n + 1, depth, input =>
    match skipSpace input with
    | [] => none
    | b :: rest =>
      if b == 0x22 then (string? rest).map fun r => (.str r.1, r.2)
      else if b == 0x5B then
        match depth with
        | 0 => none
        | d + 1 =>
          match skipSpace rest with
          | [] => none
          | c :: rest' =>
            if c == 0x5D then some (.arr [], rest')
            else
              match items? n d [] rest with
              | some (xs, rest'') => some (.arr xs, rest'')
              | none => none
      else if b == 0x7B then
        match depth with
        | 0 => none
        | d + 1 =>
          match skipSpace rest with
          | [] => none
          | c :: rest' =>
            if c == 0x7D then some (.obj [], rest')
            else
              match fields? n d [] rest with
              | some (fs, rest'') => some (.obj fs, rest'')
              | none => none
      else if b == 0x6E then (dropWord? [0x75, 0x6C, 0x6C] rest).map fun r => (.null, r)
      else if b == 0x74 then (dropWord? [0x72, 0x75, 0x65] rest).map fun r => (.bool true, r)
      else if b == 0x66 then
        (dropWord? [0x61, 0x6C, 0x73, 0x65] rest).map fun r => (.bool false, r)
      else
        match numeral? (b :: rest) with
        | some (num, rest') => num.value?.map fun v => (v, rest')
        | none => none

/-- Items up to the closing bracket; `acc` holds those before in reverse. -/
def items? : Nat → Nat → List Json → Bytes → Option (List Json × Bytes)
  | 0, _, _, _ => none
  | n + 1, depth, acc, input =>
    match value? n depth input with
    | none => none
    | some (v, rest) =>
      match skipSpace rest with
      | [] => none
      | c :: rest' =>
        if c == 0x5D then some ((v :: acc).reverse, rest')
        else if c == 0x2C then items? n depth (v :: acc) rest'
        else none

/-- Fields up to the closing brace, entered into `acc`. -/
def fields? : Nat → Nat → Fields → Bytes → Option (Fields × Bytes)
  | 0, _, _, _ => none
  | n + 1, depth, acc, input =>
    match skipSpace input with
    | [] => none
    | q :: rest =>
      if q == 0x22 then
        match string? rest with
        | none => none
        | some (key, rest1) =>
          match skipSpace rest1 with
          | [] => none
          | colon :: rest2 =>
            if colon == 0x3A then
              match value? n depth rest2 with
              | none => none
              | some (v, rest3) =>
                match skipSpace rest3 with
                | [] => none
                | c :: rest4 =>
                  if c == 0x7D then some (Table.insert key v acc, rest4)
                  else if c == 0x2C then fields? n depth (Table.insert key v acc) rest4
                  else none
            else none
      else none

end

/-- Steps that suffice to read an input of this length. -/
def fuelFor (input : Bytes) : Nat := 2 * input.length + 2

/-- One value at the start of the input, with what follows it. -/
def parseStart? (input : Bytes) : Option (Json × Bytes) :=
  value? (fuelFor input) nestingLimit input

/-- The value that the whole input is, blanks around it allowed. -/
def parse? (input : Bytes) : Option Json :=
  match parseStart? input with
  | some (v, rest) => if (skipSpace rest).isEmpty then some v else none
  | none => none

def parseText? (s : String) : Option Json := parse? (Text.utf8 s)

end Courier.Json
