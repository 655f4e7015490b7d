import Mathlib.Data.List.TakeWhile
import Courier.Http.MediaType
/-!
The content type of a body in parts.  What is written before a boundary that is a token is read back as a
media type with that boundary; a JSON body has none.
-/
namespace Courier.Http.MediaType

theorem takeWhile_token {front : List Char} (tokens : ∀ c ∈ front, isTokenChar c = true) {c : Char}
    (stop : isTokenChar c = false) (rest : List Char) :
    (front ++ c :: rest).takeWhile isTokenChar = front := by
  rw [List.takeWhile_append_of_pos tokens, List.takeWhile_cons_of_neg (by simp [stop]), List.append_nil]

theorem dropWhile_token {front : List Char} (tokens : ∀ c ∈ front, isTokenChar c = true) {c : Char}
    (stop : isTokenChar c = false) (rest : List Char) :
    (front ++ c :: rest).dropWhile isTokenChar = c :: rest := by
  rw [List.dropWhile_append_of_pos tokens, List.dropWhile_cons_of_neg (by simp [stop])]

theorem value?_token {token : List Char} (tokens : ∀ c ∈ token, isTokenChar c = true) :
    value? token = some (token, []) := by
  unfold value?
  split
  · exact absurd (tokens '"' (List.mem_cons_self ..)) (by decide)
  · rw [List.takeWhile_eq_self_iff.mpr tokens, List.dropWhile_eq_nil_iff.mpr tokens]

/-- The one parameter of a body in parts. -/
def boundaryName : List Char := ['b', 'o', 'u', 'n', 'd', 'a', 'r', 'y']

theorem parameters?_boundary {boundary : List Char} (tokens : ∀ c ∈ boundary, isTokenChar c = true)
    (fuel : Nat) : ∃ tail, parameters? (fuel + 1) (' ' :: (boundaryName ++ '=' :: boundary)) =
      some ([("boundary", String.ofList boundary)], tail) := by
  have name : ∀ c ∈ boundaryName, isTokenChar c = true := List.all_eq_true.mp (by decide)
  have stop : isTokenChar '=' = false := by decide
  have taken := takeWhile_token name stop boundary
  have left := dropWhile_token name stop boundary
  have blank : (' ' :: (boundaryName ++ '=' :: boundary)).dropWhile (· == ' ') =
      boundaryName ++ '=' :: boundary := rfl
  have ended : parameters? fuel [] = some ([], []) := by
    cases fuel <;> simp [parameters?]
  have lowered : String.ofList (boundaryName.map Char.toLower) = "boundary" := by decide
  have value := value?_token tokens
  unfold boundaryName at *
  simp only [List.cons_append, List.nil_append] at taken left blank ⊢
  unfold parameters?
  simp only [blank, taken, left, value, Option.bind_some, ended, Option.map_some, lowered]
  exact ⟨_, rfl⟩

/-- A type, a subtype and parameters, read piece by piece. -/
theorem parse?_pieces {s : String} {c : Char} {kind rest sub more : List Char}
    {ps : List (String × String) × List Char} (first : s.toList.takeWhile isTokenChar = c :: kind)
    (behind : s.toList.dropWhile isTokenChar = '/' :: rest) (second : rest.takeWhile isTokenChar = sub)
    (some_sub : sub.isEmpty = false) (last : rest.dropWhile isTokenChar = ';' :: more)
    (found : parameters? more.length more = some ps) :
    ∃ m, parse? s = some m ∧ m.kind = Text.lower (String.ofList (c :: kind)) ∧
      m.subtype = Text.lower (String.ofList (sub.take 1 ++ (sub.drop 1).takeWhile (· != '+'))) ∧
      m.parameters = ps.1 := by
  unfold parse?
  dsimp only
  split
  · next c' kind' rest' first' behind' =>
    rw [first] at first'
    rw [behind] at behind'
    cases first'
    cases behind'
    split
    · next last' =>
      rw [last] at last'
      cases last'
    · next more' last' =>
      rw [last] at last'
      cases last'
      rw [second, some_sub, found]
      exact ⟨_, rfl, rfl, rfl, rfl⟩
    · next _ other => exact (other _ last).elim
  · next other => exact (other _ _ _ first behind).elim

/-- The content type of a body in parts, up to its boundary. -/
def formData : String := "multipart/form-data; boundary="

/-- A body in parts declares its boundary, which is a token. -/
theorem boundary?_formData {boundary : String} (token : isToken boundary = true) :
    (parse? (formData ++ boundary)).bind boundary? = some boundary := by
  have tokens : ∀ c ∈ boundary.toList, isTokenChar c = true := by
    simp only [isToken, Bool.and_eq_true, List.all_eq_true] at token
    exact token.2
  obtain ⟨tail, found⟩ := parameters?_boundary tokens (boundaryName ++ '=' :: boundary.toList).length
  rw [← List.length_cons] at found
  generalize declared : ' ' :: (boundaryName ++ '=' :: boundary.toList) = more at found
  have listed : (formData ++ boundary).toList =
      "multipart".toList ++ '/' :: ("form-data".toList ++ ';' :: more) := by
    rw [String.toList_append, ← declared]
    rfl
  have kind : ∀ c ∈ "multipart".toList, isTokenChar c = true := List.all_eq_true.mp (by decide)
  have sub : ∀ c ∈ "form-data".toList, isTokenChar c = true := List.all_eq_true.mp (by decide)
  have slash : isTokenChar '/' = false := by decide
  have semicolon : isTokenChar ';' = false := by decide
  have first : (formData ++ boundary).toList.takeWhile isTokenChar = 'm' :: "ultipart".toList := by
    rw [listed]
    exact takeWhile_token kind slash _
  have behind : (formData ++ boundary).toList.dropWhile isTokenChar =
      '/' :: ("form-data".toList ++ ';' :: more) := by
    rw [listed]
    exact dropWhile_token kind slash _
  obtain ⟨m, parsed, isMultipart, isForm, parameters⟩ := parse?_pieces first behind
    (takeWhile_token sub semicolon more) (by decide) (dropWhile_token sub semicolon more) found
  have form : m.isFormData = true := by
    rw [isFormData, isMultipart, isForm]
    decide
  rw [parsed, Option.bind_some, boundary?, if_pos form, parameter?, parameters, List.lookup_cons_self,
    String.ofList_toList]

theorem boundary?_json : (parse? "application/json").bind boundary? = none := by decide +kernel

end Courier.Http.MediaType
