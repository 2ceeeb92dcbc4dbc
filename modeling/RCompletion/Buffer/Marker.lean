import RCompletion.Buffer.Typed
import RCompletion.Text.Split

/-!
# Cursor markers

A buffer with its cursor can be written as one text, in which the first `@`
marks the cursor.
-/

namespace RCompletion
namespace Buffer

/-- The character that marks the cursor. -/
def markerCharacter : Char := '@'

/-- A buffer and the place of its cursor. -/
structure Marked where
  /-- The rows, without the marker. -/
  rows : List String
  /-- The place of the marker. -/
  cursor : Cursor
deriving Repr, DecidableEq

/-- Rows without the first marker, and its place, if there is a marker. -/
def unmarkRows : List (List Char) → Option (List (List Char) × Cursor)
  | [] => none
  | row :: rows =>
      let before := row.takeWhile (· ≠ markerCharacter)
      match row.dropWhile (· ≠ markerCharacter) with
      | _ :: after => some ((before ++ after) :: rows, ⟨0, before.length⟩)
      | [] =>
          (unmarkRows rows).map fun (rows, cursor) =>
            (row :: rows, { cursor with line := cursor.line + 1 })

/-- The buffer that a marked text describes, if it has a marker. -/
def ofMarked? (text : String) : Option Marked :=
  (unmarkRows (Text.splitAt '\n' text.toList)).map fun (rows, cursor) =>
    ⟨rows.map String.ofList, cursor⟩

end Buffer
end RCompletion
