import Courier.Http.Uri
import Courier.Proofs.Form
/-!
Addresses with a query.  A path of legal characters, among which there is neither a question mark nor the
start of a fragment, is accepted with any pairs behind it as long as the whole is not too long, and comes
out as it went in.  Whatever text with a path is accepted, its path ends before the query.
-/
namespace Courier.Http.Uri

theorem queryChars_query (pairs : Form.Pairs) : (Form.queryChars pairs).all isQueryChar = true := by
  have byte : ∀ b : UInt8, (Form.encodeByte b).all isQueryChar = true :=
    Text.forall_byte (by decide +kernel)
  have join : ∀ {a b : List Char}, a.all isQueryChar = true → b.all isQueryChar = true →
      (a ++ b).all isQueryChar = true := by
    intro a b front back
    rw [List.all_append, front, back]
    rfl
  exact Form.queryChars_of (P := fun cs => cs.all isQueryChar = true) rfl join byte rfl rfl pairs

theorem isQueryChar_ne_hash {c : Char} (h : isQueryChar c = true) : (c != '#') = true := by
  rw [bne_iff_ne]
  rintro rfl
  exact absurd h (by decide)

/-- A text that starts with a slash has a path, and no authority. -/
theorem parse?_rooted {s : String} {rest : List Char} (slash : s.toList = '/' :: rest)
    (short : s.utf8ByteSize ≤ lengthLimit) :
    parse? s = (pathAndQuery? s.toList).map fun p => ⟨none, none, p.1, p.2⟩ := by
  rw [parse?, if_neg (Nat.not_lt.mpr short), slash]
  rfl

/-- What stands before a query or a fragment. -/
def untilQuery (s : List Char) : List Char := s.takeWhile fun c => c != '?' && c != '#'

/-- A text with a path that was accepted is no longer than allowed, and its path stops before the query. -/
theorem parse?_rooted_some {s : String} {rest : List Char} {uri : Uri} (slash : s.toList = '/' :: rest)
    (parsed : parse? s = some uri) : s.utf8ByteSize ≤ lengthLimit ∧
      uri.path.toList = untilQuery s.toList ∧ uri.path.toList.all isPathChar = true := by
  have short : s.utf8ByteSize ≤ lengthLimit := by
    by_contra long
    rw [parse?, if_pos (Nat.lt_of_not_le long)] at parsed
    cases parsed
  rw [parse?_rooted slash short] at parsed
  obtain ⟨p, taken, rfl⟩ := Option.map_eq_some_iff.mp parsed
  unfold pathAndQuery? at taken
  dsimp only at taken
  split at taken
  · next allowed =>
    have path : p.1 = String.ofList (untilQuery s.toList) := by
      split at taken
      · split at taken
        · exact congrArg Prod.fst (Option.some.inj taken).symm
        · cases taken
      · exact congrArg Prod.fst (Option.some.inj taken).symm
    dsimp only
    rw [path, String.toList_ofList]
    exact ⟨short, rfl, allowed⟩
  · cases taken

theorem all_isPathChar_of_accepted {path : String} (plain : ∀ c ∈ path.toList, c ≠ '?' ∧ c ≠ '#')
    {rest : List Char} (slash : path.toList = '/' :: rest) (accepted : (parse? path).isSome = true) :
    path.toList.all isPathChar = true := by
  obtain ⟨uri, parsed⟩ := Option.isSome_iff_exists.mp accepted
  obtain ⟨_, whole, allowed⟩ := parse?_rooted_some slash parsed
  have same : untilQuery path.toList = path.toList := List.takeWhile_eq_self_iff.mpr (by simpa using plain)
  rwa [whole, same] at allowed

section

variable {path : String} (allowed : path.toList.all isPathChar = true)
include allowed

theorem plain_of_allowed : ∀ c ∈ path.toList, (c != '?' && c != '#') = true := by
  intro c member
  have legal := List.all_eq_true.mp allowed c member
  rw [Bool.and_eq_true, bne_iff_ne, bne_iff_ne]
  refine ⟨?_, ?_⟩ <;>
    · rintro rfl
      exact absurd legal (by decide)

theorem pathAndQuery?_path : pathAndQuery? path.toList = some (path, none) := by
  have plain := plain_of_allowed allowed
  simp only [pathAndQuery?, List.takeWhile_eq_self_iff.mpr plain, List.dropWhile_eq_nil_iff.mpr plain, allowed,
    if_true, String.ofList_toList]

theorem pathAndQuery?_query {query : List Char} (written : query.all isQueryChar = true) :
    pathAndQuery? (path.toList ++ '?' :: query) = some (path, some (String.ofList query)) := by
  have plain := plain_of_allowed allowed
  have no_hash : ∀ c ∈ query, (c != '#') = true :=
    fun c member => isQueryChar_ne_hash (List.all_eq_true.mp written c member)
  unfold pathAndQuery?
  rw [List.takeWhile_append_of_pos plain, List.dropWhile_append_of_pos plain]
  simp [allowed, written, List.takeWhile_eq_self_iff.mpr no_hash]

/-- A path of legal characters keeps what it is with pairs behind it, and the pairs are read back. -/
theorem parse?_withQuery (rooted : Text.startsWith path "/" = true) (pairs : Form.Pairs)
    (short : (Form.withQuery path pairs).utf8ByteSize ≤ lengthLimit) :
    ∃ uri, parse? (Form.withQuery path pairs) = some uri ∧ uri.path = path ∧
      Form.decode (Text.utf8 (uri.query.getD "")) = pairs := by
  obtain ⟨rest, slash⟩ := (Text.startsWith_iff path "/").mp rooted
  have slash : path.toList = '/' :: rest := slash.symm
  cases pairs with
  | nil =>
    have parsed : parse? path = some ⟨none, none, path, none⟩ := by
      rw [parse?_rooted slash short, pathAndQuery?_path allowed]
      rfl
    exact ⟨_, parsed, rfl, rfl⟩
  | cons p more =>
    have chars : (Form.withQuery path (p :: more)).toList =
        path.toList ++ '?' :: Form.queryChars (p :: more) := by
      simp [Form.withQuery, Form.encode]
    have parsed : parse? (Form.withQuery path (p :: more)) =
        some ⟨none, none, path, some (Form.encode (p :: more))⟩ := by
      rw [parse?_rooted (by rw [chars, slash]; rfl) short, chars,
        pathAndQuery?_query allowed (queryChars_query _)]
      rfl
    exact ⟨_, parsed, rfl, Form.decode_encode _⟩

end

end Courier.Http.Uri
