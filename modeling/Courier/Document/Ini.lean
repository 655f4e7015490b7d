import Courier.Document.Lexical
/-!
Documents in INI: keys and texts, one to a line, under headings in brackets.
-/
namespace Courier.Document.Ini

structure State where
  root : Fields := []
  heading : Option String := none

/-- The name before the first equals sign or colon, and the text after it. -/
def splitKey? (front : Chars) : Chars → Option (Chars × Chars)
  | [] => none
  | c :: rest =>
    if c == '=' || c == ':' then some (trimSpaces front.reverse, trimSpaces rest)
    else splitKey? (c :: front) rest

/-- A text in quotes stands for what is between them. -/
def unquote (s : Chars) : Chars :=
  match s with
  | q :: rest =>
    if (q == '"' || q == '\'') && rest.getLast? == some q then rest.dropLast else s
  | [] => []

def put (st : State) (key : String) (value : Json) : State :=
  match st.heading with
  | none => { st with root := Table.insert key value st.root }
  | some name =>
    let under := match Table.get? name st.root with
      | some (.obj fields) => fields
      | _ => []
    { st with root := Table.insert name (.obj (Table.insert key value under)) st.root }

def line? (st : State) (s : Chars) : Option State :=
  match trimSpaces s with
  | [] => some st
  | ';' :: _ => some st
  | '#' :: _ => some st
  | '[' :: rest =>
    if rest.contains ']' then
      let name := String.ofList (trimSpaces (rest.takeWhile (· != ']')))
      let root := if Table.has name st.root then st.root else Table.insert name (.obj []) st.root
      some ⟨root, some name⟩
    else none
  | s => (splitKey? [] s).map fun e => put st (String.ofList e.1) (.str (String.ofList (unquote e.2)))

def parse? (text : String) : Option Json :=
  ((lines text.toList).foldlM line? {}).map fun st => .obj st.root

end Courier.Document.Ini
