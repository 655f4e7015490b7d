import Courier.Text.Visible
/-!
Quoted text for people.  Quotes, backslashes and characters that cannot be seen are escaped; all
else stands for itself.
-/
namespace Courier.Text

def unicodeEscape (c : Char) : List Char :=
  '\\' :: 'u' :: '{' :: Nat.toDigits 16 c.toNat ++ ['}']

/-- `marks` escapes attaching marks too, `single` the single quote. -/
def quoteChar (marks single : Bool) (c : Char) : List Char :=
  if c == '\x00' then ['\\', '0']
  else if c == '\t' then ['\\', 't']
  else if c == '\r' then ['\\', 'r']
  else if c == '\n' then ['\\', 'n']
  else if c == '\\' || c == '"' || (single && c == '\'') then ['\\', c]
  else if (marks && isExtending c) || !isPrintable c then unicodeEscape c
  else [c]

/-- In double quotes, with marks escaped everywhere. -/
def quoted (s : String) : String :=
  String.ofList ('"' :: s.toList.flatMap (quoteChar true false) ++ ['"'])

/-- In double quotes, with marks escaped only at the start and single quotes escaped as well. -/
def quotedBoth (s : String) : String :=
  let body := match s.toList with
    | [] => []
    | c :: rest => quoteChar true true c ++ rest.flatMap (quoteChar false true)
  String.ofList ('"' :: body ++ ['"'])

end Courier.Text
