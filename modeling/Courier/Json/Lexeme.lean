import Courier.Json.Parser
/-!
JSON by its grammar alone.  `lexeme?` cuts one value off the input and leaves it uninterpreted: the
nesting limit, the range of numbers and the pairing of surrogates do not matter to it.  `members?`
splits an object into its keys and the lexemes of their values, repeated keys included, and `elements?`
an array into the lexemes of its items.
-/
namespace Courier.Json

/-- What follows a string, after its opening quote. -/
def skipString : Bytes → Option Bytes
  | [] => none
  | b :: rest =>
    if b == 0x22 then some rest
    else if b == 0x5C then
      match rest with
      | [] => none
      | e :: rest' =>
        if e == 0x75 then
          match rest' with
          | a :: b :: c :: d :: rest'' =>
            if (hexNibble? a).isSome && (hexNibble? b).isSome && (hexNibble? c).isSome
                && (hexNibble? d).isSome then skipString rest''
            else none
          | _ => none
        else if (shortEscape? e).isSome then skipString rest'
        else none
    else if b < 0x20 then none
    else skipString rest

mutual

def skipValue? : Nat → Bytes → Option Bytes
  | 0, _ => none
  | n + 1, input =>
    match skipSpace input with
    | [] => none
    | b :: rest =>
      if b == 0x22 then skipString rest
      else if b == 0x5B then
        match skipSpace rest with
        | [] => none
        | c :: rest' => if c == 0x5D then some rest' else skipItems? n rest
      else if b == 0x7B then
        match skipSpace rest with
        | [] => none
        | c :: rest' => if c == 0x7D then some rest' else skipFields? n rest
      else if b == 0x6E then dropWord? [0x75, 0x6C, 0x6C] rest
      else if b == 0x74 then dropWord? [0x72, 0x75, 0x65] rest
      else if b == 0x66 then dropWord? [0x61, 0x6C, 0x73, 0x65] rest
      else (numeral? (b :: rest)).map Prod.snd

def skipItems? : Nat → Bytes → Option Bytes
  | 0, _ => none
  | n + 1, input =>
    match skipValue? n input with
    | none => none
    | some rest =>
      match skipSpace rest with
      | [] => none
      | c :: rest' =>
        if c == 0x5D then some rest' else if c == 0x2C then skipItems? n rest' else none

def skipFields? : Nat → Bytes → Option Bytes
  | 0, _ => none
  | n + 1, input =>
    match skipSpace input with
    | [] => none
    | q :: rest =>
      if q == 0x22 then
        match skipString rest with
        | none => none
        | some rest1 =>
          match skipSpace rest1 with
          | [] => none
          | colon :: rest2 =>
            if colon == 0x3A then
              match skipValue? n rest2 with
              | none => none
              | some rest3 =>
                match skipSpace rest3 with
                | [] => none
                | c :: rest4 =>
                  if c == 0x7D then some rest4
                  else if c == 0x2C then skipFields? n rest4
                  else none
            else none
      else none

end

/-- The text of one value, without blanks before it, and what follows. -/
def lexeme? (input : Bytes) : Option (Bytes × Bytes) :=
  let start := skipSpace input
  (skipValue? (fuelFor start) start).map fun rest =>
    (start.take (start.length - rest.length), rest)

def memberList : Nat → List (String × Bytes) → Bytes → Option (List (String × Bytes) × Bytes)
  | 0, _, _ => none
  | n + 1, acc, input =>
    match skipSpace input with
    | [] => none
    | q :: rest =>
      if q == 0x22 then
        match string? rest with
        | none => none
        | some (key, rest1) =>
          match skipSpace rest1 with
          | [] => none
          | colon :: rest2 =>
            if colon == 0x3A then
              match lexeme? rest2 with
              | none => none
              | some (v, rest3) =>
                match skipSpace rest3 with
                | [] => none
                | c :: rest4 =>
                  if c == 0x7D then some (((key, v) :: acc).reverse, rest4)
                  else if c == 0x2C then memberList n ((key, v) :: acc) rest4
                  else none
            else none
      else none

/-- Keys and value lexemes of the object that the whole input is, in the order written. -/
def members? (input : Bytes) : Option (List (String × Bytes)) :=
  match skipSpace input with
  | [] => none
  | b :: rest =>
    if b != 0x7B then none
    else
      let parsed := match skipSpace rest with
        | c :: rest' => if c == 0x7D then some ([], rest') else memberList (fuelFor input) [] rest
        | [] => none
      match parsed with
      | some (ms, rest') => if (skipSpace rest').isEmpty then some ms else none
      | none => none

def elementList : Nat → List Bytes → Bytes → Option (List Bytes × Bytes)
  | 0, _, _ => none
  | n + 1, acc, input =>
    match lexeme? input with
    | none => none
    | some (v, rest) =>
      match skipSpace rest with
      | [] => none
      | c :: rest' =>
        if c == 0x5D then some ((v :: acc).reverse, rest')
        else if c == 0x2C then elementList n (v :: acc) rest'
        else none

/-- Lexemes of the items of the array that the whole input is, in the order written. -/
def elements? (input : Bytes) : Option (List Bytes) :=
  match skipSpace input with
  | [] => none
  | b :: rest =>
    if b != 0x5B then none
    else
      let parsed := match skipSpace rest with
        | c :: rest' => if c == 0x5D then some ([], rest') else elementList (fuelFor input) [] rest
        | [] => none
      match parsed with
      | some (vs, rest') => if (skipSpace rest').isEmpty then some vs else none
      | none => none

end Courier.Json
