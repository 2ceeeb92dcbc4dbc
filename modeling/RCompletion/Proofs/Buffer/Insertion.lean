import RCompletion.Proofs.Buffer.Field
import RCompletion.Proofs.Pattern.FirstPart

/-!
# Words and insertion columns

The text before the cursor ends with the word, which may be quoted.  Whatever
the configured pattern is, a candidate is inserted within this text; with the
default pattern it is inserted where the part of the word after its last `$`
starts.
-/

namespace RCompletion
namespace Buffer

/-! ## The word -/

theorem isLongestSuffix_typedWord (typed : String) :
    IsLongestSuffix isNamePart typed.toList (typedWord typed).toList := by
  rw [typedWord, String.toList_ofList]
  exact isLongestSuffix_suffixWhile isNamePart typed.toList

/-- A word is quoted exactly if a quotation mark stands right before it. -/
theorem isQuoted_iff (typed : String) :
    isQuoted typed = true ↔
      ∃ before mark, typed.toList = before ++ mark :: (typedWord typed).toList ∧
        (mark = '"' ∨ mark = '\'') := by
  have parts :
      (typed.toList.reverse.dropWhile isNamePart).reverse ++
          (typedWord typed).toList = typed.toList := by
    rw [typedWord, String.toList_ofList, dropWhile_reverse_append_suffixWhile]
  -- what stands before the word is the same in every such cut
  have before_iff (before : List Char) (mark : Char) :
      typed.toList = before ++ mark :: (typedWord typed).toList ↔
        typed.toList.reverse.dropWhile isNamePart = mark :: before.reverse := by
    rw [← List.singleton_append, ← List.append_assoc]
    nth_rewrite 1 [← parts]
    rw [List.append_cancel_right_eq, List.reverse_eq_iff, List.reverse_append,
      List.reverse_singleton, List.singleton_append]
  simp only [before_iff, isQuoted]
  cases typed.toList.reverse.dropWhile isNamePart with
  | nil => simp
  | cons character rest =>
      rw [Bool.or_eq_true, beq_iff_eq, beq_iff_eq]
      constructor
      · intro isMark
        exact ⟨rest.reverse, character, by rw [List.reverse_reverse], isMark⟩
      · rintro ⟨before, mark, same, isMark⟩
        rw [List.cons.injEq] at same
        exact same.1 ▸ isMark

/-! ## The pattern of a word -/

/-- The characters of a word with its `$` accessors, as a set. -/
def wordCharacters : Pattern.CharSet :=
  .unions [.word, .single '$', .single '_', .single '.']

/-- The pattern of the word at the end of a text. -/
def wordAtEnd : Pattern :=
  (Pattern.oneOrMore wordCharacters).beforeEnd

/-- The word at the end of a text, as its pattern is written. -/
theorem parse_wordAtEnd :
    Pattern.parse "[\\w\\$_\\.]+$".toList = .ok wordAtEnd := rfl

theorem contains_wordCharacters : wordCharacters.contains = isNamePart := by
  funext character
  simp only [wordCharacters, Pattern.CharSet.unions,
    Pattern.CharSet.contains_union, Pattern.CharSet.contains_word,
    Pattern.CharSet.contains_single, isNamePart, beq_eq_decide]
  rw [Bool.or_left_comm (decide (character = '$')),
    Unicode.isWord_or_underscore_or, Bool.or_assoc]

/-- The word is what its pattern matches, and empty if that matches nothing. -/
theorem typedWord_eq_matched (typed : String) :
    typedWord typed =
      (wordAtEnd.find? typed.toList).elim "" fun span =>
        String.ofList (span.charactersOf typed.toList) := by
  rw [wordAtEnd, Pattern.find?_beforeEnd_oneOrMore, contains_wordCharacters,
    typedWord]
  split
  · rename_i nothing
    rw [nothing]
    rfl
  · rw [Option.elim_some, Pattern.Span.charactersOf, List.take_length,
      drop_eq_suffixWhile]

/-! ## The insertion column -/

/-- No pattern replaces more than what was typed. -/
theorem Detector.replacedLength_le (detector : Detector) (typed : String) :
    detector.replacedLength typed ≤ typed.length := by
  rw [replacedLength]
  split
  · rename_i span found
    rw [← String.length_toList]
    exact Pattern.length_le_of_find?_eq_some found
  · exact Nat.zero_le _

/-- With the default pattern a candidate is inserted where the field starts. -/
theorem Detector.drop_startColumn
    {detector : Detector}
    (pattern :
      detector.wordPattern = (Pattern.oneOrMore fieldCharacters).beforeEnd)
    {typed : String}
    {column : Nat}
    (within : typed.length ≤ column) :
    typed.toList.drop (detector.startColumn typed column) =
      (typedField typed).toList := by
  rw [startColumn, detector.replacedLength_eq pattern, Nat.min_eq_right within,
    ← String.length_toList, ← String.length_toList, toList_typedField,
    drop_eq_suffixWhile]

/-- A word that has `$` is cut before its field at the last one. -/
theorem exists_typedWord_eq_append_typedField
    {typed : String}
    (access : '$' ∈ (typedWord typed).toList) :
    ∃ path, (typedWord typed).toList =
      path ++ '$' :: (typedField typed).toList := by
  have last : (typedPath typed).toList.getLast? = some '$' :=
    getLast?_typedPath ((Text.contains_dollar_iff _).mpr access)
  obtain ⟨path, parts⟩ := List.getLast?_eq_some_iff.mp last
  refine ⟨path, ?_⟩
  rw [← typedPath_append_typedField, String.toList_append, parts,
    List.append_assoc, List.singleton_append]

/-- A word without `$` is a field. -/
theorem typedField_eq_typedWord
    {typed : String}
    (plain : '$' ∉ (typedWord typed).toList) :
    (typedField typed).toList = (typedWord typed).toList := by
  rw [typedField, String.toList_ofList]
  refine (isLongestSuffix_iff.mp ⟨List.suffix_refl _, ?_, ?_⟩).symm
  · intro character present
    have part : isNamePart character = true :=
      (isLongestSuffix_typedWord typed).passes character present
    have other : character ≠ '$' := fun same => plain (same ▸ present)
    simpa [isNamePart, isFieldPart, other] using part
  · intro other ending _
    exact ending.length_le

/--
Whatever the detector is, a candidate replaces no more than what was typed and
is inserted within it.  The word is the longest end of names of what was typed;
it is quoted exactly if a quotation mark stands right before it, and then no
call and no pipe count.  With the default pattern what was typed goes on from
the insertion column with the part of the word after its last `$`, or with the
whole word.
-/
theorem Detector.word_quotes_startColumn
    (detector : Detector)
    (rows : List String)
    (cursor : Cursor) :
    let typed := typed rows cursor
    let context := detector.detect rows cursor
    let word := context.word.toList
    let replaced := typed.toList.drop context.startColumn
    (detector.replacedLength typed ≤ min cursor.column typed.length ∧
      context.startColumn + detector.replacedLength typed = typed.length ∧
      context.startColumn ≤ typed.length ∧ typed.length ≤ cursor.column) ∧
    (IsLongestSuffix isNamePart typed.toList word ∧
      context.word =
        (wordAtEnd.find? typed.toList).elim "" fun span =>
          String.ofList (span.charactersOf typed.toList)) ∧
    (context.inQuotes = true ↔
      ∃ before mark, typed.toList = before ++ mark :: word ∧
        (mark = '"' ∨ mark = '\'')) ∧
    (context.inQuotes = true →
      context.function = none ∧ context.pipe = none) ∧
    (∀ configuration, ofConfiguration configuration = .ok detector →
      configuration.source.wordPattern =
        ({} : Configuration.Source).wordPattern →
      ('$' ∈ word →
        ∃ path, word = path ++ '$' :: replaced ∧ '$' ∉ replaced) ∧
      ('$' ∉ word → replaced = word)) := by
  intro text context word replaced
  have within : text.length ≤ cursor.column := length_typed_le rows cursor
  have bounded : detector.replacedLength text ≤ text.length :=
    detector.replacedLength_le text
  have column :
      context.startColumn = text.length - detector.replacedLength text := by
    rw [show context.startColumn = detector.startColumn text cursor.column
      from rfl, startColumn, Nat.min_eq_right within]
  refine ⟨⟨?_, ?_, ?_, within⟩,
    ⟨isLongestSuffix_typedWord text, typedWord_eq_matched text⟩,
    isQuoted_iff text, ?_, ?_⟩
  · rw [Nat.min_eq_right within]
    exact bounded
  · omega
  · omega
  · intro quoted
    have isQuoted : isQuoted text = true := quoted
    exact ⟨if_pos isQuoted, if_pos isQuoted⟩
  · intro configuration accepted default
    have field : replaced = (typedField text).toList :=
      drop_startColumn (wordPattern_of_ofConfiguration accepted default) within
    rw [field]
    constructor
    · intro access
      obtain ⟨path, parts⟩ := exists_typedWord_eq_append_typedField access
      exact ⟨path, parts, not_mem_typedField text⟩
    · exact typedField_eq_typedWord

/-- In a quoted path the field is replaced, also right of the end of its row. -/
theorem Detector.detect_quotedPath :
    ofConfiguration {} = .ok Detector.default ∧
      Detector.default.detect ["c(é[\"df$a$co"] ⟨0, 99⟩ =
        ⟨"df$a$co", none, none, true, 10⟩ ∧
      (typed ["c(é[\"df$a$co"] ⟨0, 99⟩).toList.drop 10 = "co".toList ∧
      ∃ path, "df$a$co".toList = path ++ '$' :: "co".toList := by
  have detected :
      Detector.default.detect ["c(é[\"df$a$co"] ⟨0, 99⟩ =
        ⟨"df$a$co", none, none, true, 10⟩ := rfl
  have rest :
      (typed ["c(é[\"df$a$co"] ⟨0, 99⟩).toList.drop 10 = "co".toList := by
    decide
  have field :=
    (word_quotes_startColumn Detector.default ["c(é[\"df$a$co"]
      ⟨0, 99⟩).2.2.2.2 {} ofConfiguration_default rfl
  rw [detected, rest] at field
  obtain ⟨path, parts, -⟩ := field.1 (by decide)
  exact ⟨ofConfiguration_default, detected, rest, path, parts⟩

end Buffer
end RCompletion
