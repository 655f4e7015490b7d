import Courier.Base64
import Courier.Digest.Sha256
import Courier.Json.Lexeme
import Courier.Json.Printer
/-!
Tokens by which services vouch for themselves.  A token is three segments joined by dots: a header, the
claims, and a keyed digest of the two under a shared secret.  A token is good for the one service that
it names as its audience.  Here are `issue` and `verify` of `ServiceIdentity`, with the rules by which a
token's header and claims are read.
-/
namespace Courier

structure ServiceClaims where
  issuer : String
  audience : String
  /-- Seconds since the start of 1970. -/
  issuedAt : Int
  deriving DecidableEq, Repr

def ServiceClaims.fields (c : ServiceClaims) : Fields :=
  [("aud", .str c.audience), ("iat", .int c.issuedAt), ("iss", .str c.issuer)]

/-- A service's name and the secret it shares with the others. -/
structure Identity where
  name : String
  secret : String
  deriving DecidableEq, Repr

inductive TokenError where
  | malformed | badEncoding | badJson | wrongAlgorithm | wrongSignature | wrongAudience
  deriving DecidableEq, Repr

namespace Token

/-- The algorithm of every token. -/
def algorithm : String := "HS256"

/-- Algorithms that a header may name. -/
def knownAlgorithms : List String :=
  [algorithm, "HS384", "HS512", "ES256", "ES384", "RS256", "RS384", "RS512", "PS256", "PS384",
    "PS512", "EdDSA"]

def headerText : String := "\x7b\"typ\":\"JWT\",\"alg\":\"HS256\"\x7d"

def claimsText (c : ServiceClaims) : String :=
  "\x7b\"iss\":" ++ (Json.str c.issuer).text ++ ",\"aud\":" ++ (Json.str c.audience).text
    ++ ",\"iat\":" ++ (Json.int c.issuedAt).text ++ "\x7d"

def segment (s : String) : String := Base64.encodeUrl (Text.utf8 s)

/-- The keyed digest of the first two segments, as text. -/
def signature (secret signed : String) : String :=
  Base64.encodeUrl (Digest.hmacSha256 (Text.utf8 secret) (Text.utf8 signed))

def signed (c : ServiceClaims) : String := segment headerText ++ "." ++ segment (claimsText c)

/-- A token for `audience`, with the claims that it carries. -/
def issue (id : Identity) (audience : String) (now : Int) : String × ServiceClaims :=
  let c : ServiceClaims := ⟨id.name, audience, now⟩
  (signed c ++ "." ++ signature id.secret (signed c), c)

/-- What stands before and after the last dot. -/
def splitLast? (s : String) : Option (String × String) :=
  let back := s.toList.reverse
  match back.dropWhile (· != '.') with
  | [] => none
  | _ :: front => some (String.ofList front.reverse, String.ofList (back.takeWhile (· != '.')).reverse)

/-- An object written with each of its known keys at most once. -/
def distinct (known : List String) (members : List (String × Bytes)) : Bool :=
  known.all fun k => (members.filter fun m => m.1 == k).length ≤ 1

def member? (key : String) (members : List (String × Bytes)) : Option Bytes :=
  (members.find? fun m => m.1 == key).map Prod.snd

def isNull (raw : Bytes) : Bool :=
  match Json.parse? raw with
  | some .null => true
  | _ => false

def isText (raw : Bytes) : Bool :=
  match Json.parse? raw with
  | some (.str _) => true
  | _ => false

def isTextOrNull (raw : Bytes) : Bool := isNull raw || isText raw

def isTextsOrNull (raw : Bytes) : Bool :=
  match Json.parse? raw with
  | some .null => true
  | some (.arr items) => items.all fun j => match j with
    | .str _ => true
    | _ => false
  | _ => false

/-- One of a choice of names: a text, or the only key of an object whose value is `blank`. -/
def choiceOf? (blank : Bytes → Bool) (raw : Bytes) : Option String :=
  match Json.parse? raw with
  | some (.str name) => some name
  | _ =>
    match Json.members? raw with
    | some [(name, value)] => if blank value then some name else none
    | _ => none

def choice? (raw : Bytes) : Option String := choiceOf? isNull raw

/-! ### Keys -/

def curves : List String := ["P-256", "P-384", "P-521", "Ed25519"]

/-- The kinds of keys, with the parameters that a key of each kind carries. -/
def keyKinds : List (String × List String) :=
  [("EC", ["crv", "x", "y"]), ("RSA", ["n", "e"]), ("oct", ["k"]), ("OKP", ["crv", "x"])]

/-- Fields of a key of any kind that are texts. -/
def keyTexts : List String := ["use", "kid", "x5u", "x5t", "x5t#S256"]

/-- Fields of a key of any kind that are lists of texts. -/
def keyTextLists : List String := ["key_ops", "x5c"]

def isNullOrEmpty (raw : Bytes) : Bool :=
  match Json.parse? raw with
  | some .null => true
  | some (.obj []) => true
  | _ => false

def isParameter (name : String) (raw : Bytes) : Bool :=
  if name == "crv" then (choice? raw).any curves.contains else isText raw

/-- A key may be of several kinds: what is written for the others is not looked at. -/
def isOfKind (members : List (String × Bytes)) (kind : String × List String) : Bool :=
  distinct ("kty" :: kind.2) members && (member? "kty" members).bind choice? == some kind.1
    && kind.2.all fun name => (member? name members).any (isParameter name)

/-- A public key, of a known kind.  An algorithm that it names need not be known. -/
def isKey (raw : Bytes) : Bool :=
  match Json.members? raw with
  | none => false
  | some members =>
    distinct ("alg" :: keyTexts ++ keyTextLists) members
      && keyTexts.all (fun name => (member? name members).all isTextOrNull)
      && keyTextLists.all (fun name => (member? name members).all isTextsOrNull)
      && (member? "alg" members).all (fun a => isNull a || (choiceOf? isNullOrEmpty a).isSome)
      && keyKinds.any (isOfKind members)
      -- A key is read whole, and stands one level deep already.
      && (Json.value? (Json.fuelFor raw) (Json.nestingLimit - 1) raw).isSome

/-! ### Headers -/

/-- The fields of a header, in the order in which an array lists them. -/
def headerFields : List String :=
  ["typ", "alg", "cty", "jku", "jwk", "kid", "x5u", "x5c", "x5t", "x5t#S256"]

/-- A header is an object in which no field stands twice, or an array of all the fields. -/
def headerMembers? (raw : Bytes) : Option (List (String × Bytes)) :=
  match Json.members? raw with
  | some members => if distinct headerFields members then some members else none
  | none =>
    match Json.elements? raw with
    | some items => if items.length == headerFields.length then some (headerFields.zip items) else none
    | none => none

def isHeaderField (name : String) (raw : Bytes) : Bool :=
  if name == "alg" then (choice? raw).any knownAlgorithms.contains
  else if name == "jwk" then isNull raw || isKey raw
  else if name == "x5c" then isTextsOrNull raw
  else isTextOrNull raw

/-- The algorithm that a header names, if the header is one. -/
def headerAlgorithm? (raw : Bytes) : Option String := do
  let members ← headerMembers? raw
  if headerFields.all fun name => (member? name members).all (isHeaderField name) then
    choice? (← member? "alg" members)
  else none

/-! ### Claims -/

/-- An array or an object that is not empty. -/
def isFilled (raw : Bytes) : Bool :=
  match raw with
  | [] => false
  | b :: rest =>
    if b == 0x5B then (Json.skipSpace rest).head? != some 0x5D
    else if b == 0x7B then (Json.skipSpace rest).head? != some 0x7D
    else false

def isContainer (raw : Bytes) : Bool := raw.head? == some 0x5B || raw.head? == some 0x7B

def textMember? (key : String) (members : List (String × Bytes)) : Option String := do
  match ← Json.parse? (← member? key members) with
  | .str s => some s
  | _ => none

/-- The claims of a token.  Other claims are ignored, but those with a registered meaning must not be
repeated, and those of them that are single values must not be containers. -/
def claims? (raw : Bytes) : Option ServiceClaims := do
  -- Claims are read twice, for their values and for the checks.  The lists that these readings would take
  -- are of different lengths, so that no array is good for both.
  let members ← Json.members? raw
  if !distinct ["iss", "aud", "iat", "exp", "nbf", "sub"] members then none
  else if (member? "exp" members).any isFilled || (member? "nbf" members).any isFilled then none
  else if (member? "sub" members).any isContainer then none
  else
    let issuer ← textMember? "iss" members
    let audience ← textMember? "aud" members
    match ← Json.parse? (← member? "iat" members) with
    | .int n => if Word.isSigned64 n then some ⟨issuer, audience, n⟩ else none
    | _ => none

/-- The header is checked first, then the signature, the claims and the audience. -/
def verify (id : Identity) (token : String) : Except TokenError ServiceClaims :=
  match splitLast? token with
  | none => .error .malformed
  | some (message, given) =>
    match splitLast? message with
    | none => .error .malformed
    | some (header, payload) =>
      match Base64.decodeUrl? header with
      | none => .error .badEncoding
      | some headerBytes =>
        match headerAlgorithm? headerBytes with
        | none => .error .badJson
        | some a =>
          if a != algorithm then .error .wrongAlgorithm
          else if given != signature id.secret message then .error .wrongSignature
          else
            match Base64.decodeUrl? payload with
            | none => .error .badEncoding
            | some claimBytes =>
              match claims? claimBytes with
              | none => .error .badJson
              | some c => if c.audience == id.name then .ok c else .error .wrongAudience

end Token
end Courier
