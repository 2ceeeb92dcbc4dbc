import RCompletion.Proofs.Engine.Blocks

/-!
# What stands before the cursor

A context is found from the rows above the cursor and from the text before the
cursor on its row.  Two buffers that agree on these have the same context there,
and a request is answered the same way in both, whatever follows the cursor.
-/

namespace RCompletion
namespace Buffer

/-- The rows down to the cursor, of which the last one ends at the cursor. -/
def rowsBefore (rows : List String) (cursor : Cursor) : List String :=
  rows.take cursor.line ++ [typed rows cursor]

/-- Two buffers have the row of the cursor, and agree on what stands before it. -/
structure AgreeBefore (cursor : Cursor) (left right : List String) : Prop where
  /-- The rows above are the same. -/
  above : ∀ line < cursor.line, left[line]? = right[line]?
  /-- So are the characters before the column on the row of the cursor. -/
  onRow : ∃ leftRow ∈ left[cursor.line]?, ∃ rightRow ∈ right[cursor.line]?,
    leftRow.toList.take cursor.column = rightRow.toList.take cursor.column

/-- A text that was cut at a column is not cut by it again. -/
theorem beforeColumn_beforeColumn (row : String) (column : Nat) :
    beforeColumn (beforeColumn row column) column = beforeColumn row column := by
  simp only [beforeColumn, String.toList_ofList, List.take_take, Nat.min_self]

/-- Buffers that agree before the cursor are the same down to it. -/
theorem AgreeBefore.rowsBefore_eq
    {cursor : Cursor}
    {left right : List String}
    (agree : AgreeBefore cursor left right) :
    rowsBefore left cursor = rowsBefore right cursor := by
  have above : left.take cursor.line = right.take cursor.line := by
    apply List.ext_getElem?
    intro line
    rw [List.getElem?_take, List.getElem?_take]
    split
    · rename_i higher
      exact agree.above line higher
    · rfl
  obtain ⟨leftRow, leftPresent, rightRow, rightPresent, sameStart⟩ :=
    agree.onRow
  have row : typed left cursor = typed right cursor := by
    rw [typed, typed, Option.mem_def.mp leftPresent,
      Option.mem_def.mp rightPresent]
    exact congrArg String.ofList sameStart
  rw [rowsBefore, rowsBefore, above, row]

section

variable {rows : List String} {cursor : Cursor}

theorem getElem?_rowsBefore (present : cursor.line < rows.length) :
    (rowsBefore rows cursor)[cursor.line]? = some (typed rows cursor) := by
  have length : (rows.take cursor.line).length = cursor.line :=
    List.length_take_of_le present.le
  rw [rowsBefore, List.getElem?_append_right length.le, length, Nat.sub_self]
  rfl

/-- What was typed is still there when the rest of the buffer is gone. -/
theorem typed_rowsBefore (present : cursor.line < rows.length) :
    typed (rowsBefore rows cursor) cursor = typed rows cursor := by
  rw [typed, getElem?_rowsBefore present, Option.getD_some, typed,
    beforeColumn_beforeColumn]

/-- The rows that are searched for a pipe end at the cursor. -/
theorem rowsUpward_rowsBefore (present : cursor.line < rows.length) :
    rowsUpward (rowsBefore rows cursor) cursor = rowsUpward rows cursor := by
  have above :
      (rowsBefore rows cursor).take cursor.line = rows.take cursor.line := by
    rw [rowsBefore, List.take_append_of_le_length
      (List.length_take_of_le present.le).ge, List.take_take, Nat.min_self]
  simp only [rowsUpward, above, getElem?_rowsBefore present,
    List.getElem?_eq_getElem present, typed, Option.getD_some,
    beforeColumn_beforeColumn]

/-- A context is found in what stands before the cursor. -/
theorem Detector.detect_rowsBefore
    (detector : Detector)
    (present : cursor.line < rows.length) :
    detector.detect (rowsBefore rows cursor) cursor =
      detector.detect rows cursor := by
  simp only [detect, scanPipe, typed_rowsBefore present,
    rowsUpward_rowsBefore present]

end

theorem AgreeBefore.present
    {cursor : Cursor}
    {left right : List String}
    (agree : AgreeBefore cursor left right) :
    cursor.line < left.length ∧ cursor.line < right.length := by
  obtain ⟨leftRow, leftPresent, rightRow, rightPresent, -⟩ := agree.onRow
  exact ⟨(List.getElem?_eq_some_iff.mp leftPresent).1,
    (List.getElem?_eq_some_iff.mp rightPresent).1⟩

/-- Buffers that agree before the cursor have the same context there. -/
theorem AgreeBefore.detect_eq
    {cursor : Cursor}
    {left right : List String}
    (agree : AgreeBefore cursor left right)
    (detector : Detector) :
    detector.detect left cursor = detector.detect right cursor :=
  calc
    detector.detect left cursor
      = detector.detect (rowsBefore left cursor) cursor :=
        (detector.detect_rowsBefore agree.present.1).symm
    _ = detector.detect (rowsBefore right cursor) cursor := by
        rw [agree.rowsBefore_eq]
    _ = detector.detect right cursor :=
        detector.detect_rowsBefore agree.present.2

end Buffer

namespace Engine

/--
Buffers that have the row of the cursor and agree on what stands before it are
told apart neither by the detector of any configuration nor by a request: the
response, the notices, and the engine with its store are the same.
-/
theorem detect_eq_and_complete_eq_of_agreeBefore
    {σ : Type} [Session σ]
    {cursor : Buffer.Cursor}
    {left right : List String}
    (agree : Buffer.AgreeBefore cursor left right) :
    (∀ detector : Buffer.Detector,
      detector.detect left cursor = detector.detect right cursor) ∧
      ∀ (engine : Engine σ) (disk : Disk),
        engine.complete disk left cursor =
          engine.complete disk right cursor := by
  refine ⟨agree.detect_eq, fun engine disk => ?_⟩
  have context : engine.detect left cursor = engine.detect right cursor :=
    agree.detect_eq engine.detector
  rw [complete, complete, context]

/-- The call that is typed on after the cursor does not turn the word into its name. -/
theorem complete_before_call :
    let typedSoFar := ["df %>%", "  co"]
    let whole := ["df %>%", "  cor(x, y) |>", "  print()"]
    let completed := (chainEngine.complete .empty whole ⟨1, 4⟩).value
    Buffer.AgreeBefore ⟨1, 4⟩ typedSoFar whole ∧
      chainEngine.complete .empty typedSoFar ⟨1, 4⟩ =
        chainEngine.complete .empty whole ⟨1, 4⟩ ∧
      completed.2.candidates.map (·.label) =
        ["cost", "cost", "day", "cor", "compiler"] := by
  have agree :
      Buffer.AgreeBefore ⟨1, 4⟩ ["df %>%", "  co"]
        ["df %>%", "  cor(x, y) |>", "  print()"] := by
    constructor
    · intro line above
      obtain rfl : line = 0 := Nat.lt_one_iff.mp above
      rfl
    · exact ⟨_, rfl, _, rfl, by decide⟩
  exact ⟨agree,
    (detect_eq_and_complete_eq_of_agreeBefore agree).2 chainEngine .empty, rfl⟩

end Engine
end RCompletion
