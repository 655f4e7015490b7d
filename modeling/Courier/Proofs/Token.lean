import Courier.Token
import Courier.Proofs.Base64
import Courier.Proofs.Json.Members
/-!
What a token is worth.  A service that shares the secret takes a token exactly when it is addressed to it,
with the claims it was issued with.  And whatever text is taken, by whomever it was made, is three segments
of which the last is the keyed digest of the others; the first names the algorithm, and the second states
each of the claims that are returned once.
-/
namespace Courier.Token

open Base64 (encodeUrl decodeUrl?)

/-! ### Segments -/

theorem splitLast?_eq_some_iff {s front back : String} :
    splitLast? s = some (front, back) ↔ s = front ++ "." ++ back ∧ '.' ∉ back.toList := by
  unfold splitLast?
  constructor
  · intro cut
    dsimp only at cut
    split at cut
    · cases cut
    · next dot rest behind =>
      obtain ⟨rfl, rfl⟩ := Prod.mk.inj (Option.some.inj cut)
      have isDot : dot = '.' := by
        have stopped := List.head?_dropWhile_not (· != '.') s.toList.reverse
        rw [behind] at stopped
        simpa using stopped
      have joined := List.takeWhile_append_dropWhile (p := (· != '.')) (l := s.toList.reverse)
      have clear : ∀ c ∈ s.toList.reverse.takeWhile (· != '.'), (c != '.') = true :=
        fun _ member => List.mem_takeWhile_imp (p := (· != '.')) member
      rw [behind, isDot] at joined
      generalize s.toList.reverse.takeWhile (· != '.') = tail at joined clear
      have whole : s.toList = rest.reverse ++ '.' :: tail.reverse := by
        rw [← List.reverse_reverse s.toList, ← joined]
        simp
      refine ⟨String.toList_injective (by simp [whole]), ?_⟩
      rw [String.toList_ofList, List.mem_reverse]
      intro member
      simpa using clear _ member
  · rintro ⟨rfl, clear⟩
    have passes : ∀ c ∈ back.toList.reverse, (c != '.') = true := by
      intro c member
      rw [List.mem_reverse] at member
      exact bne_iff_ne.mpr fun same => clear (same ▸ member)
    have turned : (front ++ "." ++ back).toList.reverse =
        back.toList.reverse ++ '.' :: front.toList.reverse := by
      simp
    rw [turned]
    simp [List.dropWhile_append_of_pos passes, List.takeWhile_append_of_pos passes]

theorem encodeUrl_clear (b : Bytes) : '.' ∉ (encodeUrl b).toList := by
  have symbols : ∀ n : Fin 64, Base64.Alphabet.urlSafe.symbol n.val ≠ '.' := by decide
  rw [encodeUrl, String.toList_ofList]
  intro dot
  exact Base64.encodeChars_all .urlSafe (p := (· ≠ '.')) (fun n small => symbols ⟨n, small⟩) (by decide)
    false b '.' dot rfl

/-- Three segments that hold no dot themselves. -/
theorem splitOn_segments (header payload digest : Bytes) :
    Text.splitOn '.' (encodeUrl header ++ "." ++ encodeUrl payload ++ "." ++ encodeUrl digest).toList =
      [(encodeUrl header).toList, (encodeUrl payload).toList, (encodeUrl digest).toList] := by
  have listed : (encodeUrl header ++ "." ++ encodeUrl payload ++ "." ++ encodeUrl digest).toList =
      (encodeUrl header).toList ++ '.' ::
        ((encodeUrl payload).toList ++ '.' :: (encodeUrl digest).toList) := by
    simp
  rw [listed, Text.splitOn_append (encodeUrl_clear header), Text.splitOn_append (encodeUrl_clear payload),
    Text.splitOn_clear (encodeUrl_clear digest)]

/-! ### What a header and claims state -/

/-- An object in which this name stands once, with this text for its value. -/
def Carries (raw : Bytes) (name : String) (lexeme : Bytes) : Prop :=
  ∃ members, Json.members? raw = some members ∧ members.filter (fun m => m.1 == name) = [(name, lexeme)]

/-- An object in which this name stands once, with this value. -/
def States (raw : Bytes) (name : String) (value : Json) : Prop :=
  ∃ lexeme, Carries raw name lexeme ∧ Json.parse? lexeme = some value

/-- One name is chosen: as a text, or as the only key of an object, which gives it `null`. -/
def Chooses (raw : Bytes) (name : String) : Prop :=
  Json.parse? raw = some (.str name) ∨
    ∃ value, Json.members? raw = some [(name, value)] ∧ Json.parse? value = some .null

/-- A header names the algorithm of its token under a key that stands once, or, where it is written as an
array of all its fields, at the second place. -/
def NamesAlgorithm (header : Bytes) (a : String) : Prop :=
  ∃ lexeme, Chooses lexeme a ∧
    (Carries header "alg" lexeme ∨
      ∃ items, Json.elements? header = some items ∧ items.length = 10 ∧ items[1]? = some lexeme)

theorem carries_of_member? {raw lexeme : Bytes} {members : List (String × Bytes)} {known : List String}
    {name : String} (split : Json.members? raw = some members) (once : distinct known members = true)
    (isKnown : name ∈ known) (found : member? name members = some lexeme) : Carries raw name lexeme := by
  obtain ⟨first, here, rfl⟩ := Option.map_eq_some_iff.mp found
  have named : first.1 = name := by simpa using List.find?_some here
  have single : (members.filter fun m => m.1 == name).length ≤ 1 := by
    simpa using List.all_eq_true.mp once name isKnown
  have head : (members.filter fun m => m.1 == name).head? = some first := by rw [List.head?_filter, here]
  refine ⟨members, split, ?_⟩
  rw [← named] at single head ⊢
  cases filtered : members.filter fun m => m.1 == first.1 with
  | nil => simp [filtered] at head
  | cons only others =>
    rw [filtered] at single head
    obtain rfl : only = first := by simpa using head
    obtain rfl : others = [] := by simpa using single
    rfl

theorem states_of_member? {raw lexeme : Bytes} {members : List (String × Bytes)} {known : List String}
    {name : String} {value : Json} (split : Json.members? raw = some members)
    (once : distinct known members = true) (isKnown : name ∈ known)
    (found : member? name members = some lexeme) (read : Json.parse? lexeme = some value) :
    States raw name value :=
  ⟨lexeme, carries_of_member? split once isKnown found, read⟩

theorem isNull_iff {raw : Bytes} : isNull raw = true ↔ Json.parse? raw = some .null := by
  unfold isNull
  split
  · next null => simp [null]
  · next other => exact ⟨nofun, fun null => absurd null other⟩

theorem chooses_of_choice? {raw : Bytes} {name : String} (h : choice? raw = some name) : Chooses raw name := by
  unfold choice? choiceOf? at h
  split at h
  · next text =>
    obtain rfl := Option.some.inj h
    exact .inl text
  · split at h
    · next only =>
      split at h
      · next blank =>
        obtain rfl := Option.some.inj h
        exact .inr ⟨_, only, isNull_iff.mp blank⟩
      · cases h
    · cases h

/-- In an array of all the fields, the algorithm is the second. -/
theorem member?_zip_alg {items : List Bytes} (whole : items.length = headerFields.length) :
    member? "alg" (headerFields.zip items) = items[1]? := by
  match items, whole with
  | typ :: alg :: rest, _ => simp [headerFields, member?]

theorem namesAlgorithm_of_headerAlgorithm? {raw : Bytes} {a : String} (h : headerAlgorithm? raw = some a) :
    NamesAlgorithm raw a := by
  unfold headerAlgorithm? at h
  obtain ⟨members, read, h⟩ := Option.bind_eq_some_iff.mp h
  split at h
  · obtain ⟨lexeme, found, chosen⟩ := Option.bind_eq_some_iff.mp h
    refine ⟨lexeme, chooses_of_choice? chosen, ?_⟩
    unfold headerMembers? at read
    split at read
    · next members' split =>
      split at read
      · next once =>
        obtain rfl := Option.some.inj read
        exact .inl (carries_of_member? split once (by decide) found)
      · cases read
    · split at read
      · next items listed =>
        split at read
        · next whole =>
          obtain rfl := Option.some.inj read
          have whole : items.length = headerFields.length := eq_of_beq whole
          exact .inr ⟨items, listed, whole, member?_zip_alg whole ▸ found⟩
        · cases read
      · cases read
  · cases h

theorem textMember?_eq_some {name s : String} {members : List (String × Bytes)}
    (h : textMember? name members = some s) :
    ∃ lexeme, member? name members = some lexeme ∧ Json.parse? lexeme = some (.str s) := by
  obtain ⟨lexeme, found, h⟩ := Option.bind_eq_some_iff.mp h
  obtain ⟨value, read, h⟩ := Option.bind_eq_some_iff.mp h
  split at h
  · obtain rfl := Option.some.inj h
    exact ⟨lexeme, found, read⟩
  · cases h

theorem states_of_claims? {raw : Bytes} {c : ServiceClaims} (h : claims? raw = some c) :
    States raw "iss" (.str c.issuer) ∧ States raw "aud" (.str c.audience) ∧
      States raw "iat" (.int c.issuedAt) ∧ Word.isSigned64 c.issuedAt = true := by
  unfold claims? at h
  obtain ⟨members, split, h⟩ := Option.bind_eq_some_iff.mp h
  split at h
  · cases h
  · next repeated =>
    have once : distinct ["iss", "aud", "iat", "exp", "nbf", "sub"] members = true := by simpa using repeated
    split at h
    · cases h
    · split at h
      · cases h
      · obtain ⟨issuer, issuerGiven, h⟩ := Option.bind_eq_some_iff.mp h
        obtain ⟨audience, audienceGiven, h⟩ := Option.bind_eq_some_iff.mp h
        obtain ⟨lexeme, found, h⟩ := Option.bind_eq_some_iff.mp h
        obtain ⟨value, read, h⟩ := Option.bind_eq_some_iff.mp h
        split at h
        · split at h
          · next fits =>
            obtain rfl := Option.some.inj h
            obtain ⟨_, issuerFound, issuerRead⟩ := textMember?_eq_some issuerGiven
            obtain ⟨_, audienceFound, audienceRead⟩ := textMember?_eq_some audienceGiven
            exact ⟨states_of_member? split once (by simp) issuerFound issuerRead,
              states_of_member? split once (by simp) audienceFound audienceRead,
              states_of_member? split once (by simp) found read, fits⟩
          · cases h
        · cases h

/-! ### What is issued -/

theorem headerAlgorithm?_headerText : headerAlgorithm? (Text.utf8 headerText) = some algorithm := by
  decide +kernel

/-- The same header as an array, its algorithm the key of an object. -/
example :
    headerAlgorithm? (Text.utf8
      "[\"JWT\", \x7b\"HS256\": null\x7d, null, null, null, null, null, null, null, null]") =
      some algorithm := by
  decide +kernel

theorem claimsText_eq (c : ServiceClaims) :
    claimsText c =
      (Json.obj [("iss", .str c.issuer), ("aud", .str c.audience), ("iat", .int c.issuedAt)]).text := by
  have name : ∀ s ∈ ["iss", "aud", "iat"], Json.quotedChars s = '"' :: s.toList ++ ['"'] := by decide
  apply String.toList_injective
  simp [claimsText, Json.text, Json.chars, Json.moreFields, Json.fieldChars, name]

/-- Issued claims are read back, whatever the names are. -/
theorem claims?_claimsText {c : ServiceClaims} (fits : Word.isSigned64 c.issuedAt = true) :
    claims? (Text.utf8 (claimsText c)) = some c := by
  have whole : Json.IsInt c.issuedAt := by
    simp only [Word.isSigned64, Bool.and_eq_true, decide_eq_true_eq] at fits
    exact ⟨fits.1, fits.2.trans (by decide)⟩
  have read : ∀ s, Json.parse? (Json.bytes (.str s)) = some (.str s) := fun s => Json.parse?_bytes (.str s)
  have readInt : Json.parse? (Json.bytes (.int c.issuedAt)) = some (.int c.issuedAt) :=
    Json.parse?_bytes (.int whole)
  have split : Json.members? (Text.utf8 (claimsText c)) =
      some [("iss", Json.bytes (.str c.issuer)), ("aud", Json.bytes (.str c.audience)),
        ("iat", Json.bytes (.int c.issuedAt))] := by
    have plain : ∀ f ∈ [("iss", Json.str c.issuer), ("aud", .str c.audience), ("iat", .int c.issuedAt)],
        Json.Plain Json.IsInt 0 f.2 := by
      simp only [List.forall_mem_cons, List.not_mem_nil, false_imp_iff, implies_true, and_true]
      exact ⟨.str _, .str _, .int whole⟩
    rw [claimsText_eq]
    exact Json.members?_bytes plain
  simp [claims?, split, distinct, member?, textMember?, read, readInt, fits]

/-! ### Taking a token -/

/-- A token that `id` may take for these claims; the first two segments carry `header` and `payload`. -/
structure Vouches (id : Identity) (token : String) (c : ServiceClaims) (header payload : Bytes) : Prop where
  segments : Text.splitOn '.' token.toList =
    [(encodeUrl header).toList, (encodeUrl payload).toList,
      (encodeUrl (Digest.hmacSha256 (Text.utf8 id.secret)
        (Text.utf8 (encodeUrl header ++ "." ++ encodeUrl payload)))).toList]
  algorithm : NamesAlgorithm header "HS256"
  issuer : States payload "iss" (.str c.issuer)
  audience : States payload "aud" (.str c.audience)
  issuedAt : States payload "iat" (.int c.issuedAt)
  addressed : c.audience = id.name

theorem verify_vouches {id : Identity} {token : String} {c : ServiceClaims}
    (taken : verify id token = .ok c) : ∃ header payload, Vouches id token c header payload := by
  unfold verify at taken
  split at taken
  · cases taken
  · next message given cut =>
    split at taken
    · cases taken
    · next header payload cut' =>
      split at taken
      · cases taken
      · next headerBytes headerRead =>
        split at taken
        · cases taken
        · next a named =>
          split at taken
          · cases taken
          · next known =>
            split at taken
            · cases taken
            · next signed =>
              split at taken
              · cases taken
              · next claimBytes payloadRead =>
                split at taken
                · cases taken
                · next c' claimed =>
                  split at taken
                  · next addressed =>
                    obtain rfl := Except.ok.inj taken
                    obtain rfl := Base64.encodeUrl_of_decodeUrl? headerRead
                    obtain rfl := Base64.encodeUrl_of_decodeUrl? payloadRead
                    obtain ⟨rfl, _⟩ := splitLast?_eq_some_iff.mp cut
                    obtain ⟨rfl, _⟩ := splitLast?_eq_some_iff.mp cut'
                    obtain ⟨issuer, audience, issuedAt, _⟩ := states_of_claims? claimed
                    obtain rfl : a = algorithm := by simpa using known
                    obtain rfl : given = signature id.secret _ := by simpa using signed
                    exact ⟨headerBytes, claimBytes,
                      { segments := splitOn_segments headerBytes claimBytes _
                        algorithm := namesAlgorithm_of_headerAlgorithm? named
                        issuer, audience, issuedAt
                        addressed := eq_of_beq addressed }⟩
                  · cases taken

/-- Two segments, with the digest that vouches for them. -/
def sealed (secret : String) (header payload : Bytes) : String :=
  let message := encodeUrl header ++ "." ++ encodeUrl payload
  message ++ "." ++ signature secret message

/-- However its header names the algorithm, a sealed token is taken by its audience. -/
theorem verify_sealed {secret : String} {header payload : Bytes} {c : ServiceClaims} (verifier : String)
    (named : headerAlgorithm? header = some algorithm) (claimed : claims? payload = some c) :
    verify ⟨verifier, secret⟩ (sealed secret header payload) =
      if verifier = c.audience then .ok c else .error .wrongAudience := by
  have cut : splitLast? (sealed secret header payload) =
      some (encodeUrl header ++ "." ++ encodeUrl payload,
        signature secret (encodeUrl header ++ "." ++ encodeUrl payload)) :=
    splitLast?_eq_some_iff.mpr ⟨rfl, encodeUrl_clear _⟩
  have cut' : splitLast? (encodeUrl header ++ "." ++ encodeUrl payload) =
      some (encodeUrl header, encodeUrl payload) :=
    splitLast?_eq_some_iff.mpr ⟨rfl, encodeUrl_clear _⟩
  simp only [verify, cut, cut', Base64.decodeUrl?_encodeUrl, named, claimed, bne_self_eq_false,
    Bool.false_eq_true, if_false]
  by_cases addressed : verifier = c.audience
  · simp only [addressed, beq_self_eq_true, if_true]
  · have other : (c.audience == verifier) = false := beq_eq_false_iff_ne.mpr (Ne.symm addressed)
    simp only [other, Bool.false_eq_true, if_false, if_neg addressed]

theorem verify_issue (issuer audience secret verifier : String) {now : Int}
    (fits : Word.isSigned64 now = true) :
    verify ⟨verifier, secret⟩ (issue ⟨issuer, secret⟩ audience now).1 =
      if verifier = audience then .ok (issue ⟨issuer, secret⟩ audience now).2 else .error .wrongAudience := by
  let c : ServiceClaims := ⟨issuer, audience, now⟩
  have issued : (issue ⟨issuer, secret⟩ audience now).1 =
      sealed secret (Text.utf8 headerText) (Text.utf8 (claimsText c)) := rfl
  have claimed : claims? (Text.utf8 (claimsText c)) = some c := claims?_claimsText fits
  rw [issued, verify_sealed verifier headerAlgorithm?_headerText claimed]
  rfl

/-- A token that was issued is taken by its audience, with the claims it was issued with, and by nobody else
who shares the secret; and no text is taken that does not vouch for the claims returned. -/
theorem verify_complete_and_sound :
    (∀ (issuer audience secret verifier : String) (now : Int), Word.isSigned64 now = true →
      verify ⟨verifier, secret⟩ (issue ⟨issuer, secret⟩ audience now).1 =
        if verifier = audience then .ok (issue ⟨issuer, secret⟩ audience now).2
        else .error .wrongAudience) ∧
    ∀ (id : Identity) (token : String) (c : ServiceClaims), verify id token = .ok c →
      ∃ header payload, Vouches id token c header payload :=
  ⟨fun issuer audience secret verifier _ fits => verify_issue issuer audience secret verifier fits,
    fun _ _ _ taken => verify_vouches taken⟩

/-- From billing to ledger. -/
theorem ledger_takes_its_token :
    verify ⟨"ledger", "shared"⟩ (issue ⟨"billing", "shared"⟩ "ledger" 1700000000).1 =
        .ok ⟨"billing", "ledger", 1700000000⟩ ∧
      verify ⟨"payments", "shared"⟩ (issue ⟨"billing", "shared"⟩ "ledger" 1700000000).1 =
        .error .wrongAudience ∧
      ∃ header payload, Vouches ⟨"ledger", "shared"⟩ (issue ⟨"billing", "shared"⟩ "ledger" 1700000000).1
        ⟨"billing", "ledger", 1700000000⟩ header payload := by
  obtain ⟨complete, sound⟩ := verify_complete_and_sound
  have taken := complete "billing" "ledger" "shared" "ledger" 1700000000 (by decide)
  have refused := complete "billing" "ledger" "shared" "payments" 1700000000 (by decide)
  rw [if_pos rfl] at taken
  rw [if_neg (by decide)] at refused
  exact ⟨taken, refused, sound _ _ _ taken⟩

end Courier.Token
