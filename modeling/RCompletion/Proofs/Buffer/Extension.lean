import RCompletion.Proofs.Buffer.Field

/-!
# Rows that go on

What is found before a cursor at the end of a row when the row goes on with
characters of a name.  The word and its field become longer by these
characters; whether the word is quoted and the call around it stay as they are.
-/

namespace RCompletion
namespace Buffer

variable {row further : String}

/-! ## Characters of names -/

theorem isCalleePart_of_isNamePart
    {character : Char}
    (part : isNamePart character = true) :
    isCalleePart character = true := by
  unfold isNamePart at part
  unfold isCalleePart
  simp only [Bool.or_eq_true] at part ⊢
  tauto

/-- No name of a function contains a parenthesis. -/
theorem isParenthesis_of_isCalleePart
    {character : Char}
    (part : isCalleePart character = true) :
    isParenthesis character = false := by
  rw [isParenthesis, Bool.or_eq_false_iff, beq_eq_false_iff_ne,
    beq_eq_false_iff_ne]
  constructor
  · rintro rfl
    exact absurd part (by decide)
  · rintro rfl
    exact absurd part (by decide)

theorem isParenthesis_of_isNamePart
    {character : Char}
    (part : isNamePart character = true) :
    isParenthesis character = false :=
  isParenthesis_of_isCalleePart (isCalleePart_of_isNamePart part)

/-! ## The word -/

theorem typedWord_append
    (parts : ∀ character ∈ further.toList, isNamePart character = true) :
    typedWord (row ++ further) = typedWord row ++ further := by
  rw [typedWord, String.toList_append, suffixWhile_append_of_passes parts,
    String.ofList_append, String.ofList_toList, typedWord]

theorem isQuoted_append
    (parts : ∀ character ∈ further.toList, isNamePart character = true) :
    isQuoted (row ++ further) = isQuoted row := by
  have reversed :
      ∀ character ∈ further.toList.reverse, isNamePart character = true := by
    intro character present
    exact parts character (List.mem_reverse.mp present)
  rw [isQuoted, String.toList_append, List.reverse_append,
    List.dropWhile_append_of_pos reversed, isQuoted]

theorem typedField_append
    (parts : ∀ character ∈ further.toList, isFieldPart character = true) :
    typedField (row ++ further) = typedField row ++ further := by
  have longer :
      typedWord (row ++ further) = typedWord row ++ further :=
    typedWord_append fun character present =>
      isNamePart_of_isFieldPart (parts character present)
  rw [typedField, longer, String.toList_append,
    suffixWhile_append_of_passes parts, String.ofList_append,
    String.ofList_toList, typedField]

/-- A field is not longer than the text it ends. -/
theorem length_typedField_le (typed : String) :
    (typedField typed).length ≤ typed.length := by
  rw [← String.length_toList, ← String.length_toList, toList_typedField]
  exact length_suffixWhile_le isFieldPart typed.toList

/-! ## The call -/

/-- Text without parentheses leaves the call open that it is written in. -/
theorem enclosingCall?_append_of_unparenthesized
    (unparenthesized :
      ∀ character ∈ further.toList, isParenthesis character = false) :
    enclosingCall? (row ++ further) = enclosingCall? row := by
  have skipped :
      ∀ character ∈ further.toList.reverse,
        (!isParenthesis character) = true := by
    intro character present
    rw [unparenthesized character (List.mem_reverse.mp present), Bool.not_false]
  rw [enclosingCall?, String.toList_append, List.reverse_append,
    List.dropWhile_append_of_pos skipped, enclosingCall?]

theorem enclosingCall?_append
    (parts : ∀ character ∈ further.toList, isNamePart character = true) :
    enclosingCall? (row ++ further) = enclosingCall? row := by
  apply enclosingCall?_append_of_unparenthesized
  intro character present
  exact isParenthesis_of_isNamePart (parts character present)

/-- Without parentheses there is no call. -/
theorem enclosingCall?_of_unparenthesized
    {typed : String}
    (unparenthesized :
      ∀ character ∈ typed.toList, isParenthesis character = false) :
    enclosingCall? typed = none := by
  have appended : enclosingCall? ("" ++ typed) = enclosingCall? "" :=
    enclosingCall?_append_of_unparenthesized unparenthesized
  rwa [String.empty_append] at appended

/-! ## Rows that are a word -/

section Word

variable {word : String}

theorem typedWord_of_parts
    (parts : ∀ character ∈ word.toList, isNamePart character = true) :
    typedWord word = word := by
  have appended : typedWord ("" ++ word) = typedWord "" ++ word :=
    typedWord_append parts
  rwa [show typedWord "" = "" from rfl, String.empty_append] at appended

theorem isQuoted_of_parts
    (parts : ∀ character ∈ word.toList, isNamePart character = true) :
    isQuoted word = false := by
  have appended : isQuoted ("" ++ word) = isQuoted "" := isQuoted_append parts
  rwa [String.empty_append] at appended

theorem enclosingCall?_of_parts
    (parts : ∀ character ∈ word.toList, isNamePart character = true) :
    enclosingCall? word = none := by
  apply enclosingCall?_of_unparenthesized
  intro character present
  exact isParenthesis_of_isNamePart (parts character present)

end Word

/-! ## Rows that open a call -/

theorem reverse_opened (function : String) :
    (function ++ "(").toList.reverse = '(' :: function.toList.reverse := by
  rw [String.toList_append, List.reverse_append]
  rfl

/-- After the name of a function and its parenthesis no word is typed. -/
theorem typedWord_opened (function : String) :
    typedWord (function ++ "(") = "" := by
  rw [typedWord, suffixWhile, reverse_opened,
    List.takeWhile_cons_of_neg (by decide)]
  rfl

theorem isQuoted_opened (function : String) :
    isQuoted (function ++ "(") = false := by
  rw [isQuoted, reverse_opened, List.dropWhile_cons_of_neg (by decide)]
  rfl

/-- After the name of a function and its parenthesis its call is open. -/
theorem enclosingCall?_opened
    {function : String}
    (named : function ≠ "")
    (callee : ∀ character ∈ function.toList, isCalleePart character = true) :
    enclosingCall? (function ++ "(") = some function := by
  have name :
      (function.toList.reverse.takeWhile isCalleePart).reverse =
        function.toList := by
    rw [List.takeWhile_eq_self_iff.mpr, List.reverse_reverse]
    intro character present
    exact callee character (List.mem_reverse.mp present)
  have something : ¬function.toList.isEmpty = true := by
    rw [List.isEmpty_iff, String.toList_eq_nil_iff]
    exact named
  rw [enclosingCall?, reverse_opened,
    List.dropWhile_cons_of_neg (by decide)]
  simp only [name, if_neg something, String.ofList_toList]

end Buffer
end RCompletion
