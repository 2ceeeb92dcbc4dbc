import RCompletion.Proofs.Buffer.Chain

/-!
# Cursors at the end of a row

What is detected at the end of a row, compared with what is detected at the end
of a longer one.  When the row goes on with characters of a field, only the
word becomes longer.  When a call is opened before a row that is a word, the
call is detected and the insertion column moves by what stands before the word;
the word and the chain around it stay as they are.
-/

namespace RCompletion
namespace Buffer

/-- The cursor at the end of a row with the given rows above. -/
def Cursor.atEnd (above : List String) (row : String) : Cursor where
  line := above.length
  column := row.length

theorem getElem?_above (above below : List String) (row : String) :
    (above ++ row :: below)[above.length]? = some row := by
  rw [List.getElem?_append_right le_rfl, Nat.sub_self]
  rfl

theorem beforeColumn_length (row : String) :
    beforeColumn row row.length = row := by
  rw [beforeColumn, ← String.length_toList, List.take_length,
    String.ofList_toList]

theorem typed_atEnd (above below : List String) (row : String) :
    typed (above ++ row :: below) (.atEnd above row) = row := by
  rw [typed, Cursor.atEnd, getElem?_above, Option.getD_some,
    beforeColumn_length]

/-- The search for a root goes on above the row as the row leaves it. -/
theorem scanPipe_atEnd
    (operators : PipeOperators)
    (above below : List String)
    (row : String) :
    scanPipe operators (above ++ row :: below) (.atEnd above row) =
      PipeScan.run operators (PipeScan.step operators PipeScan.start row)
        above.reverse := by
  have upward :
      rowsUpward (above ++ row :: below) (.atEnd above row) =
        row :: above.reverse := by
    simp only [rowsUpward, Cursor.atEnd, getElem?_above, beforeColumn_length,
      List.take_left]
  rw [scanPipe, upward]
  rfl

namespace Detector

variable {detector : Detector}

/-- What is detected at the end of a row depends on the row and those above. -/
theorem detect_atEnd
    (detector : Detector)
    (above below : List String)
    (row : String) :
    detector.detect (above ++ row :: below) (.atEnd above row) =
      { word := typedWord row
        function := if isQuoted row then none else enclosingCall? row
        pipe :=
          if isQuoted row then none
          else (PipeScan.run detector.operators
            (PipeScan.step detector.operators PipeScan.start row)
            above.reverse).source?
        inQuotes := isQuoted row
        startColumn := detector.startColumn row row.length } := by
  simp only [detect, typed_atEnd, scanPipe_atEnd]
  rfl

theorem startColumn_atEnd
    (pattern :
      detector.wordPattern = (Pattern.oneOrMore fieldCharacters).beforeEnd)
    (row : String) :
    detector.startColumn row row.length =
      row.length - (typedField row).length := by
  rw [startColumn, Nat.min_self, detector.replacedLength_eq pattern]

/-- Going on with characters of a field makes the word longer and nothing else. -/
theorem detect_typedOn
    (pattern :
      detector.wordPattern = (Pattern.oneOrMore fieldCharacters).beforeEnd)
    (apart : detector.operators.Apart)
    {row further : String}
    (nonempty : row ≠ "")
    (parts : ∀ character ∈ further.toList, isFieldPart character = true)
    (above below : List String) :
    let context := detector.detect (above ++ row :: below) (.atEnd above row)
    detector.detect (above ++ (row ++ further) :: below)
        (.atEnd above (row ++ further)) =
      { context with word := context.word ++ further } := by
  have nameParts :
      ∀ character ∈ further.toList, isNamePart character = true :=
    fun character present => isNamePart_of_isFieldPart (parts character present)
  have column :
      detector.startColumn (row ++ further) (row ++ further).length =
        detector.startColumn row row.length := by
    rw [startColumn_atEnd pattern, startColumn_atEnd pattern,
      typedField_append parts, String.length_append, String.length_append]
    omega
  simp only [detect_atEnd, typedWord_append nameParts,
    isQuoted_append nameParts, enclosingCall?_append nameParts,
    PipeScan.step_append apart nonempty nameParts, column]

/-- Opening a call before a word adds the call and moves the insertion column. -/
theorem detect_opened
    (pattern :
      detector.wordPattern = (Pattern.oneOrMore fieldCharacters).beforeEnd)
    (apart : detector.operators.Apart)
    {function word : String}
    (named : function ≠ "")
    (callee : ∀ character ∈ function.toList, isCalleePart character = true)
    (parts : ∀ character ∈ word.toList, isNamePart character = true)
    (above below : List String) :
    let context :=
      detector.detect (above ++ word :: below) (.atEnd above word)
    let row := function ++ "(" ++ word
    context.word = word ∧ context.inQuotes = false ∧
      context.function = none ∧
        detector.detect (above ++ row :: below) (.atEnd above row) =
          { context with
            function := some function
            startColumn := context.startColumn + function.length + 1 } := by
  intro context row
  have rowWord : typedWord row = word := by
    rw [typedWord_append parts, typedWord_opened, String.empty_append]
  have rowUnquoted : isQuoted row = false := by
    rw [isQuoted_append parts, isQuoted_opened]
  have rowCalled : enclosingCall? row = some function := by
    rw [enclosingCall?_append parts, enclosingCall?_opened named callee]
  -- neither row stops the search for a root, which goes on above it
  have scanned :
      PipeScan.step detector.operators PipeScan.start row =
        PipeScan.step detector.operators PipeScan.start word := by
    have callText : IsCallText word := .of_word parts
    rw [callText.step_start apart, (callText.of_opened callee).step_start apart]
  have column :
      detector.startColumn row row.length =
        detector.startColumn word word.length + function.length + 1 := by
    have sameField : typedField row = typedField word := by
      rw [typedField, typedField, rowWord, typedWord_of_parts parts]
    have bounded := length_typedField_le word
    have lengths : row.length = function.length + 1 + word.length := by
      rw [String.length_append, String.length_append]
      rfl
    rw [startColumn_atEnd pattern, startColumn_atEnd pattern, sameField,
      lengths]
    omega
  simp only [context, detect_atEnd, typedWord_of_parts parts, rowWord,
    isQuoted_of_parts parts, rowUnquoted, enclosingCall?_of_parts parts,
    rowCalled, column, scanned, Bool.false_eq_true, if_false, and_self]

end Detector

end Buffer
end RCompletion
