import RCompletion.Buffer.Context
import RCompletion.Proofs.Pattern.AtEnd
import RCompletion.Proofs.Text.Parts

/-!
# Fields

The text before the cursor ends with a word, and the word with a field: what
follows its last `$`.  With the default pattern it is the field that a
candidate replaces, so that the insertion column stands right after the path
to the field.
-/

namespace RCompletion
namespace Buffer

/-- Whether a character can be part of a name without `$` accessors. -/
def isFieldPart (character : Char) : Bool :=
  Unicode.isWord character || character == '.'

/-- What stands before the word. -/
def beforeWord (typed : String) : String :=
  String.ofList (typed.toList.reverse.dropWhile isNamePart).reverse

/-- The part of the word before the field. -/
def typedPath (typed : String) : String :=
  String.ofList ((typedWord typed).toList.reverse.dropWhile isFieldPart).reverse

/-- The end of the word without `$` accessors. -/
def typedField (typed : String) : String :=
  String.ofList (suffixWhile isFieldPart (typedWord typed).toList)

/-! ## The parts of the typed text -/

/-- A text is what stands before its word, and the word. -/
theorem beforeWord_append_typedWord (typed : String) :
    beforeWord typed ++ typedWord typed = typed := by
  rw [beforeWord, typedWord, ← String.ofList_append,
    dropWhile_reverse_append_suffixWhile, String.ofList_toList]

/-- A word is the path to its field, and the field. -/
theorem typedPath_append_typedField (typed : String) :
    typedPath typed ++ typedField typed = typedWord typed := by
  rw [typedPath, typedField, ← String.ofList_append,
    dropWhile_reverse_append_suffixWhile, String.ofList_toList]

theorem isNamePart_of_isFieldPart
    {character : Char}
    (part : isFieldPart character = true) :
    isNamePart character = true := by
  unfold isFieldPart at part
  unfold isNamePart
  rw [Bool.or_eq_true] at part ⊢
  rcases part with word | dot
  · exact .inl (by rw [word, Bool.true_or])
  · exact .inr dot

/-- The field is the end of the whole text as well. -/
theorem toList_typedField (typed : String) :
    (typedField typed).toList = suffixWhile isFieldPart typed.toList := by
  rw [typedField, typedWord, String.toList_ofList, String.toList_ofList,
    suffixWhile_suffixWhile fun _ => isNamePart_of_isFieldPart]

/-- No field contains `$`. -/
theorem not_mem_typedField (typed : String) :
    '$' ∉ (typedField typed).toList := by
  intro present
  rw [toList_typedField] at present
  have part : isFieldPart '$' = true := passes_of_mem_suffixWhile present
  exact absurd part (by decide)

/-- The path to a field ends with `$`. -/
theorem getLast?_typedPath
    {typed : String}
    (access : Text.contains (typedWord typed) "$" = true) :
    (typedPath typed).toList.getLast? = some '$' := by
  let word := (typedWord typed).toList
  have dollar : '$' ∈ word := (Text.contains_dollar_iff _).mp access
  have parts (character : Char) (present : character ∈ word) :
      isNamePart character = true := by
    rw [show word = suffixWhile isNamePart typed.toList from
      String.toList_ofList] at present
    exact passes_of_mem_suffixWhile present
  rw [typedPath, String.toList_ofList, List.getLast?_reverse]
  cases last : (word.reverse.dropWhile isFieldPart).head? with
  | none =>
      rw [List.head?_eq_none_iff, List.dropWhile_eq_nil_iff] at last
      have part := last '$' (List.mem_reverse.mpr dollar)
      exact absurd part (by decide)
  | some character =>
      obtain ⟨present, fails⟩ := fails_of_head?_dropWhile last
      have part := parts character (List.mem_reverse.mp present)
      rw [isFieldPart, Bool.or_eq_false_iff] at fails
      rw [isNamePart, fails.1, fails.2, Bool.false_or, Bool.or_false,
        beq_iff_eq] at part
      rw [part]

/-- Nothing of the field is typed exactly when the word ends with `$`. -/
theorem typedField_eq_empty_iff
    {typed : String}
    (access : Text.contains (typedWord typed) "$" = true) :
    typedField typed = "" ↔
      (typedWord typed).toList.getLast? = some '$' := by
  rw [← typedPath_append_typedField typed, String.toList_append,
    List.getLast?_append]
  constructor
  · intro empty
    rw [empty, String.toList_empty, List.getLast?_nil, Option.none_or]
    exact getLast?_typedPath access
  · intro ends
    cases last : (typedField typed).toList.getLast? with
    | none =>
        rw [List.getLast?_eq_none_iff] at last
        exact String.toList_eq_nil_iff.mp last
    | some character =>
        rw [last, Option.some_or, Option.some.injEq] at ends
        exact absurd (List.mem_of_getLast? (ends ▸ last))
          (not_mem_typedField typed)

/-! ## The insertion column -/

/-- The characters of a field, as a set. -/
def fieldCharacters : Pattern.CharSet :=
  .unions [.word, .single '_', .single '.']

/-- The set of field characters holds what can be part of a field. -/
theorem contains_fieldCharacters : fieldCharacters.contains = isFieldPart := by
  funext character
  simp only [fieldCharacters, Pattern.CharSet.unions,
    Pattern.CharSet.contains_union, Pattern.CharSet.contains_word,
    Pattern.CharSet.contains_single, Unicode.isWord_or_underscore_or,
    isFieldPart, beq_eq_decide]

/-- The default pattern matches the field characters at the end of a text. -/
theorem patternAtEnd_wordPattern :
    patternAtEnd ({} : Configuration.Source).wordPattern =
      .ok (Pattern.oneOrMore fieldCharacters).beforeEnd := rfl

/-- A detector has the operators and the patterns of its configuration. -/
theorem Detector.of_ofConfiguration_eq_ok
    {configuration : Configuration}
    {detector : Detector}
    (succeeded : ofConfiguration configuration = .ok detector) :
    PipeOperators.ofList? configuration.pipeOperators =
        some detector.operators ∧
      patternAtEnd configuration.source.wordPattern =
        .ok detector.wordPattern ∧
      configuration.source.refreshPatterns.mapM patternAtEnd =
        .ok detector.refreshPatterns := by
  unfold ofConfiguration at succeeded
  cases listed : PipeOperators.ofList? configuration.pipeOperators with
  | none => simp [listed, throw, throwThe, MonadExceptOf.throw] at succeeded
  | some operators =>
      cases word : patternAtEnd configuration.source.wordPattern with
      | error failure => simp [listed, word, bind, Except.bind] at succeeded
      | ok wordPattern =>
          cases refresh :
              configuration.source.refreshPatterns.mapM patternAtEnd with
          | error failure =>
              simp [listed, word, refresh, bind, Except.bind] at succeeded
          | ok refreshPatterns =>
              simp only [listed, word, refresh, bind, Except.bind, pure,
                Except.pure, Except.ok.injEq] at succeeded
              subst succeeded
              exact ⟨rfl, rfl, rfl⟩

/-- The default configuration is proper. -/
theorem Detector.isSome_ofConfiguration_default :
    (ofConfiguration {}).toOption.isSome = true := rfl

/-- The detector of the default configuration. -/
def Detector.default : Detector :=
  (ofConfiguration {}).toOption.get isSome_ofConfiguration_default

theorem Detector.ofConfiguration_default :
    ofConfiguration {} = .ok Detector.default := rfl

/-- The detector of a configuration with the default pattern matches by it. -/
theorem Detector.wordPattern_of_ofConfiguration
    {configuration : Configuration}
    {detector : Detector}
    (succeeded : ofConfiguration configuration = .ok detector)
    (pattern :
      configuration.source.wordPattern =
        ({} : Configuration.Source).wordPattern) :
    detector.wordPattern =
      (Pattern.oneOrMore fieldCharacters).beforeEnd := by
  obtain ⟨-, word, -⟩ := of_ofConfiguration_eq_ok succeeded
  rw [pattern, patternAtEnd_wordPattern] at word
  exact (Except.ok.inj word).symm

/-- With the default pattern the field is what a candidate replaces. -/
theorem Detector.replacedLength_eq
    {detector : Detector}
    (pattern :
      detector.wordPattern = (Pattern.oneOrMore fieldCharacters).beforeEnd)
    (typed : String) :
    detector.replacedLength typed = (typedField typed).length := by
  have bounded := length_suffixWhile_le isFieldPart typed.toList
  rw [← String.length_toList, toList_typedField, replacedLength, pattern,
    Pattern.find?_beforeEnd_oneOrMore, contains_fieldCharacters]
  by_cases nothing : suffixWhile isFieldPart typed.toList = []
  · rw [if_pos nothing, nothing]
    rfl
  · rw [if_neg nothing]
    exact Nat.sub_sub_self bounded

/-- A row up to a column before the cursor is the start of what is typed. -/
theorem beforeColumn_eq_take_typed
    {cursor : Cursor}
    {column : Nat}
    (before : column ≤ cursor.column)
    (rows : List String) :
    beforeColumn (rows[cursor.line]?.getD "") column =
      String.ofList ((typed rows cursor).toList.take column) := by
  rw [typed, beforeColumn, beforeColumn, String.toList_ofList,
    List.take_take, Nat.min_eq_left before]

/-- With the default pattern a candidate is inserted after the path to the field. -/
theorem Detector.beforeColumn_startColumn
    {detector : Detector}
    (pattern :
      detector.wordPattern = (Pattern.oneOrMore fieldCharacters).beforeEnd)
    (rows : List String)
    (cursor : Cursor) :
    beforeColumn (rows[cursor.line]?.getD "")
        (detector.startColumn (typed rows cursor) cursor.column) =
      beforeWord (typed rows cursor) ++ typedPath (typed rows cursor) := by
  let text := typed rows cursor
  let kept := beforeWord text ++ typedPath text
  have bounded : text.length ≤ cursor.column := length_typed_le rows cursor
  have parts : kept ++ typedField text = text := by
    rw [String.append_assoc, typedPath_append_typedField,
      beforeWord_append_typedWord]
  have lengths : kept.length + (typedField text).length = text.length := by
    rw [← String.length_append, parts]
  have column : detector.startColumn text cursor.column = kept.length := by
    rw [startColumn, detector.replacedLength_eq pattern,
      Nat.min_eq_right bounded]
    omega
  calc
    beforeColumn (rows[cursor.line]?.getD "")
        (detector.startColumn text cursor.column) =
      String.ofList (text.toList.take kept.length) := by
        rw [column, beforeColumn_eq_take_typed (by omega)]
    _ = String.ofList
        ((kept.toList ++ (typedField text).toList).take kept.length) := by
        rw [← String.toList_append, parts]
    _ = kept := by
        rw [← String.length_toList, List.take_left, String.ofList_toList]

end Buffer
end RCompletion
