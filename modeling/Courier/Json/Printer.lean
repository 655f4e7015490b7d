import Courier.Json
import Courier.Double.Shortest
import Courier.Text
/-!
JSON text.  It is compact and escapes only quotes, backslashes and control characters.  Doubles are
the shortest decimals that read back, and always show a point or an exponent.
-/
namespace Courier.Json

def intChars (n : Int) : List Char :=
  match n with
  | .ofNat k => Nat.toDigits 10 k
  | .negSucc k => '-' :: Nat.toDigits 10 (k + 1)

def zeros (n : Nat) : List Char := List.replicate n '0'

/-- A decimal with `digits`, whose point stands `point` places after their start.  Positions from
-4 to 16 are written out, others with a signed exponent. -/
def decimalChars (digits : List Char) (point : Int) : List Char :=
  let count : Int := digits.length
  if count ≤ point && point ≤ 16 then digits ++ zeros (point - count).toNat ++ ['.', '0']
  else if 0 < point && point ≤ 16 then
    digits.take point.toNat ++ '.' :: digits.drop point.toNat
  else if -5 < point && point ≤ 0 then '0' :: '.' :: zeros (-point).toNat ++ digits
  else
    let e := point - 1
    let fraction := match digits.drop 1 with
      | [] => []
      | rest => '.' :: rest
    digits.take 1 ++ fraction ++ 'e' :: (if 0 ≤ e then ['+'] else []) ++ intChars e

def doubleChars (x : Double) : List Char :=
  let body :=
    if x.isZero then ['0', '.', '0']
    else
      let d := x.shortest
      let digits := Nat.toDigits 10 d.digits
      decimalChars digits (digits.length + d.exponent)
  if x.isNegative then '-' :: body else body

def escapeChar (c : Char) : List Char :=
  if c == '"' then ['\\', '"']
  else if c == '\\' then ['\\', '\\']
  else if c == '\n' then ['\\', 'n']
  else if c == '\r' then ['\\', 'r']
  else if c == '\t' then ['\\', 't']
  else if c == '\x08' then ['\\', 'b']
  else if c == '\x0c' then ['\\', 'f']
  else if c.toNat < 0x20 then
    ['\\', 'u', '0', '0', Text.hexDigit (c.toNat / 16), Text.hexDigit (c.toNat % 16)]
  else [c]

def quotedChars (s : String) : List Char := '"' :: s.toList.flatMap escapeChar ++ ['"']

mutual

/-- The text of a value. -/
def chars : Json → List Char
  | .null => ['n', 'u', 'l', 'l']
  | .bool true => ['t', 'r', 'u', 'e']
  | .bool false => ['f', 'a', 'l', 's', 'e']
  | .int n => intChars n
  | .double x => doubleChars x
  | .str s => quotedChars s
  | .arr [] => ['[', ']']
  | .arr (x :: xs) => '[' :: chars x ++ moreItems xs
  | .obj [] => ['{', '}']
  | .obj (f :: fs) => '{' :: fieldChars f ++ moreFields fs
termination_by structural j => j

def moreItems : List Json → List Char
  | [] => [']']
  | x :: xs => ',' :: chars x ++ moreItems xs
termination_by structural l => l

def moreFields : List (String × Json) → List Char
  | [] => ['}']
  | f :: fs => ',' :: fieldChars f ++ moreFields fs
termination_by structural l => l

def fieldChars : String × Json → List Char
  | (k, v) => quotedChars k ++ ':' :: chars v
termination_by structural f => f

end

def text (j : Json) : String := String.ofList (chars j)

def bytes (j : Json) : Bytes := Text.utf8 (text j)

end Courier.Json
