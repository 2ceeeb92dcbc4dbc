import RCompletion.Buffer.Marker
import RCompletion.Proofs.Text.Fields
import Mathlib.Data.List.TakeWhile

/-!
# Marked texts

A buffer is written down with its cursor by putting a marker where the cursor
stands.  Reading a text gives exactly the buffers that are written like this,
provided that no character before the cursor is a marker.  A text can be read if
it has a marker at all, and what is read from it are its rows without the first
marker.
-/

namespace RCompletion
namespace Buffer

/-! ## Rows with a marker -/

/-- Rows and a cursor, and the same rows with a marker at the cursor, which is
the first one there. -/
inductive MarkedRows : List (List Char) → Cursor → List (List Char) → Prop
  | here
      {before : List Char}
      (unmarked : markerCharacter ∉ before)
      (after : List Char)
      (below : List (List Char)) :
      MarkedRows ((before ++ after) :: below) ⟨0, before.length⟩
        ((before ++ markerCharacter :: after) :: below)
  | lower
      {row : List Char}
      (unmarked : markerCharacter ∉ row)
      {rows marked : List (List Char)}
      {cursor : Cursor}
      (rest : MarkedRows rows cursor marked) :
      MarkedRows (row :: rows) { cursor with line := cursor.line + 1 }
        (row :: marked)

/-- A row is read up to its first marker. -/
theorem unmarkRows_cons_of_mem
    {before : List Char}
    (unmarked : markerCharacter ∉ before)
    (after : List Char)
    (below : List (List Char)) :
    unmarkRows ((before ++ markerCharacter :: after) :: below) =
      some ((before ++ after) :: below, ⟨0, before.length⟩) := by
  have others : ∀ character ∈ before,
      decide (character ≠ markerCharacter) = true := by
    intro character present
    exact decide_eq_true fun same => unmarked (same ▸ present)
  have taken :
      (before ++ markerCharacter :: after).takeWhile
        (· ≠ markerCharacter) = before := by
    rw [List.takeWhile_append_of_pos others]
    simp
  have left :
      (before ++ markerCharacter :: after).dropWhile
        (· ≠ markerCharacter) = markerCharacter :: after := by
    rw [List.dropWhile_append_of_pos others]
    simp
  simp only [unmarkRows, taken, left]

/-- A row without a marker is left to the rows below it. -/
theorem unmarkRows_cons_of_not_mem
    {row : List Char}
    (unmarked : markerCharacter ∉ row)
    (marked : List (List Char)) :
    unmarkRows (row :: marked) =
      (unmarkRows marked).map fun (rows, cursor) =>
        (row :: rows, { cursor with line := cursor.line + 1 }) := by
  have left : row.dropWhile (· ≠ markerCharacter) = [] := by
    rw [List.dropWhile_eq_nil_iff]
    intro character present
    exact decide_eq_true fun same => unmarked (same ▸ present)
  simp only [unmarkRows, left]

/-- What is read are the rows and the cursor that the marker stands for. -/
theorem unmarkRows_eq_some_iff
    {marked rows : List (List Char)}
    {cursor : Cursor} :
    unmarkRows marked = some (rows, cursor) ↔
      MarkedRows rows cursor marked := by
  constructor
  · intro read
    induction marked generalizing rows cursor with
    | nil => cases read
    | cons row marked inductionHypothesis =>
        by_cases present : markerCharacter ∈ row
        case pos =>
          obtain ⟨before, after, rfl, unmarked⟩ :=
            List.eq_append_cons_of_mem present
          rw [unmarkRows_cons_of_mem unmarked] at read
          cases read
          exact .here unmarked after marked
        case neg =>
          rw [unmarkRows_cons_of_not_mem present,
            Option.map_eq_some_iff] at read
          obtain ⟨⟨others, place⟩, further, same⟩ := read
          cases same
          exact .lower present (inductionHypothesis further)
  · intro marks
    induction marks with
    | here unmarked after below =>
        exact unmarkRows_cons_of_mem unmarked after below
    | lower unmarked rest inductionHypothesis =>
        rw [unmarkRows_cons_of_not_mem unmarked, inductionHypothesis]
        rfl

theorem unmarkRows_eq_none_iff {marked : List (List Char)} :
    unmarkRows marked = none ↔ ∀ row ∈ marked, markerCharacter ∉ row := by
  induction marked with
  | nil => simp [unmarkRows]
  | cons row marked inductionHypothesis =>
      rw [List.forall_mem_cons, ← inductionHypothesis]
      by_cases present : markerCharacter ∈ row
      case pos =>
        obtain ⟨before, after, rfl, unmarked⟩ :=
          List.eq_append_cons_of_mem present
        rw [unmarkRows_cons_of_mem unmarked]
        simp
      case neg =>
        rw [unmarkRows_cons_of_not_mem present]
        simp [present]

/-! ## Markers at a place -/

/-- A row with a marker before a column. -/
def insertMarker (column : Nat) (row : List Char) : List Char :=
  row.take column ++ markerCharacter :: row.drop column

/-- The first marker stands where the cursor is, and nothing else is changed. -/
theorem markedRows_iff
    {rows marked : List (List Char)}
    {cursor : Cursor} :
    MarkedRows rows cursor marked ↔
      (∀ row ∈ rows.take cursor.line, markerCharacter ∉ row) ∧
        (∃ row, rows[cursor.line]? = some row ∧
          cursor.column ≤ row.length ∧
            markerCharacter ∉ row.take cursor.column) ∧
          marked = rows.modify cursor.line (insertMarker cursor.column) := by
  constructor
  · intro marks
    induction marks with
    | @here before unmarked after below =>
        refine ⟨by simp, ⟨before ++ after, rfl, by simp, by simpa⟩, ?_⟩
        simp [insertMarker]
    | lower unmarked rest inductionHypothesis =>
        obtain ⟨above, place, parts⟩ := inductionHypothesis
        refine ⟨?_, place, ?_⟩
        · simpa [unmarked] using above
        · rw [parts, List.modify_succ_cons]
  · rintro ⟨above, ⟨row, held, inside, unmarked⟩, rfl⟩
    obtain ⟨line, column⟩ := cursor
    induction rows generalizing line with
    | nil => cases held
    | cons first rows inductionHypothesis =>
        cases line with
        | zero =>
            obtain rfl : first = row := by simpa using held
            have marks := MarkedRows.here unmarked (first.drop column) rows
            rw [List.take_append_drop, List.length_take,
              Nat.min_eq_left inside] at marks
            exact marks
        | succ line =>
            rw [List.take_succ_cons, List.forall_mem_cons] at above
            exact .lower above.1
              (inductionHypothesis line above.2 held inside unmarked)

/-- Putting in a marker adds nothing but the marker. -/
theorem MarkedRows.forall_not_mem_iff
    {rows marked : List (List Char)}
    {cursor : Cursor}
    (marks : MarkedRows rows cursor marked)
    {character : Char}
    (other : character ≠ markerCharacter) :
    (∀ row ∈ marked, character ∉ row) ↔ ∀ row ∈ rows, character ∉ row := by
  induction marks with
  | here unmarked after below => simp [other]
  | lower unmarked rest inductionHypothesis =>
      rw [List.forall_mem_cons, List.forall_mem_cons, inductionHypothesis]

/-! ## Rows put together -/

/-- What follows a piece does not depend on the piece. -/
theorem exists_joinWith_cons {α : Type}
    (separator : List α)
    (pieces : List (List α)) :
    ∃ rest, ∀ piece,
      Text.joinWith separator (piece :: pieces) = piece ++ rest := by
  cases pieces with
  | nil => exact ⟨[], fun piece => (List.append_nil piece).symm⟩
  | cons next pieces =>
      exact ⟨separator ++ Text.joinWith separator (next :: pieces),
        fun piece => List.append_assoc _ _ _⟩

theorem MarkedRows.ne_nil
    {rows marked : List (List Char)}
    {cursor : Cursor}
    (marks : MarkedRows rows cursor marked) :
    rows ≠ [] ∧ marked ≠ [] := by
  cases marks <;> simp

/-- The marker at the cursor is the first one of the text. -/
theorem MarkedRows.mem_joinWith_and_erase
    {rows marked : List (List Char)}
    {cursor : Cursor}
    (marks : MarkedRows rows cursor marked)
    {separator : Char}
    (other : markerCharacter ≠ separator) :
    markerCharacter ∈ Text.joinWith [separator] marked ∧
      (Text.joinWith [separator] marked).erase markerCharacter =
        Text.joinWith [separator] rows := by
  induction marks with
  | here unmarked after below =>
      obtain ⟨rest, parts⟩ := exists_joinWith_cons [separator] below
      rw [parts, parts, List.append_assoc, List.erase_append_right _ unmarked]
      simp
  | @lower row unmarked rows marked cursor rest inductionHypothesis =>
      obtain ⟨present, erased⟩ := inductionHypothesis
      obtain ⟨rowsFilled, markedFilled⟩ := rest.ne_nil
      obtain ⟨next, rows, rfl⟩ := List.exists_cons_of_ne_nil rowsFilled
      obtain ⟨nextMarked, marked, rfl⟩ :=
        List.exists_cons_of_ne_nil markedFilled
      have before : markerCharacter ∉ row ++ [separator] := by
        simpa [unmarked] using other
      rw [Text.joinWith, Text.joinWith, List.erase_append_right _ before,
        erased]
      exact ⟨List.mem_append_right _ present, rfl⟩

/-! ## Marked buffers -/

namespace Marked

/-- The rows with a marker at the cursor. -/
def writtenRows (marked : Marked) : List String :=
  marked.rows.modify marked.cursor.line fun row =>
    String.ofList (insertMarker marked.cursor.column row.toList)

/-- The text that shows a buffer with its cursor. -/
def text (marked : Marked) : String :=
  Text.join (String.singleton '\n') marked.writtenRows

/-- The cursor is in the buffer, and no character before it is a marker. -/
structure IsMarkable (marked : Marked) : Prop where
  unbroken : ∀ row ∈ marked.rows, '\n' ∉ row.toList
  above : ∀ row ∈ marked.rows.take marked.cursor.line,
    markerCharacter ∉ row.toList
  inside : ∃ row, marked.rows[marked.cursor.line]? = some row ∧
    marked.cursor.column ≤ row.length ∧
      markerCharacter ∉ row.toList.take marked.cursor.column

/-- The rows with a marker, character by character. -/
theorem map_toList_writtenRows (marked : Marked) :
    marked.writtenRows.map String.toList =
      (marked.rows.map String.toList).modify marked.cursor.line
        (insertMarker marked.cursor.column) := by
  apply List.ext_getElem?
  intro index
  simp only [writtenRows, List.getElem?_map, List.getElem?_modify,
    Option.map_eq_map, Option.map_map]
  congr 1
  funext row
  split
  all_goals simp

theorem isMarkable_iff (marked : Marked) :
    marked.IsMarkable ↔
      (∀ row ∈ marked.rows, '\n' ∉ row.toList) ∧
        MarkedRows (marked.rows.map String.toList) marked.cursor
          (marked.writtenRows.map String.toList) := by
  rw [markedRows_iff, map_toList_writtenRows, ← List.map_take]
  simp only [List.forall_mem_map, List.getElem?_map, Option.map_eq_some_iff]
  constructor
  · rintro ⟨unbroken, above, row, held, inside, unmarked⟩
    exact ⟨unbroken, above,
      ⟨row.toList, ⟨row, held, rfl⟩, by rwa [String.length_toList],
        unmarked⟩, trivial⟩
  · rintro ⟨unbroken, above, ⟨_, ⟨row, held, rfl⟩, inside, unmarked⟩, -⟩
    rw [String.length_toList] at inside
    exact ⟨unbroken, above, row, held, inside, unmarked⟩

end Marked

/-- What is read from a text is a buffer whose rows are those of the text, but
for the marker. -/
theorem ofMarked?_eq_some_iff_markedRows {text : String} {marked : Marked} :
    ofMarked? text = some marked ↔
      MarkedRows (marked.rows.map String.toList) marked.cursor
        (Text.splitAt '\n' text.toList) := by
  rw [ofMarked?, Option.map_eq_some_iff, ← unmarkRows_eq_some_iff]
  constructor
  · rintro ⟨⟨rows, cursor⟩, read, rfl⟩
    simpa using read
  · intro read
    exact ⟨_, read, by simp⟩

/-- A text is read as a buffer exactly when it shows this buffer. -/
theorem ofMarked?_eq_some_iff {text : String} {marked : Marked} :
    ofMarked? text = some marked ↔ marked.IsMarkable ∧ marked.text = text := by
  rw [ofMarked?_eq_some_iff_markedRows, Marked.isMarkable_iff]
  have pieces :
      Text.splitAt '\n' text.toList =
        (Text.fields '\n' text).map String.toList := by
    rw [Text.fields, List.map_map]
    simp
  constructor
  · intro marks
    have written :
        Text.fields '\n' text = marked.writtenRows := by
      refine List.map_injective_iff.mpr (fun _ _ => String.toList_inj.mp) ?_
      rw [marked.map_toList_writtenRows, ← pieces]
      exact (markedRows_iff.mp marks).2.2
    refine ⟨⟨?_, ?_⟩, ?_⟩
    · have unbroken := (marks.forall_not_mem_iff (by decide)).mp
        fun row => Text.not_mem_of_mem_splitAt
      simpa using unbroken
    · rwa [pieces, written] at marks
    · rw [Marked.text, ← written, Text.join_fields]
  · rintro ⟨⟨unbroken, marks⟩, rfl⟩
    have unbrokenMarked :
        ∀ row ∈ marked.writtenRows, '\n' ∉ row.toList := by
      have lists := (marks.forall_not_mem_iff (by decide)).mpr
        (List.forall_mem_map.mpr unbroken)
      simpa using lists
    have filled : marked.writtenRows ≠ [] := by
      intro nothing
      exact marks.ne_nil.2 (by rw [nothing, List.map_nil])
    rw [pieces, Marked.text, Text.fields_join filled unbrokenMarked]
    exact marks

theorem markerCharacter_ne_newline : markerCharacter ≠ '\n' := by decide

/-- Reading fails on a text without a marker only. -/
theorem isSome_ofMarked?_iff (text : String) :
    (ofMarked? text).isSome ↔ markerCharacter ∈ text.toList := by
  constructor
  · intro read
    obtain ⟨marked, read⟩ := Option.isSome_iff_exists.mp read
    have marks := ofMarked?_eq_some_iff_markedRows.mp read
    have present := (marks.mem_joinWith_and_erase markerCharacter_ne_newline).1
    rwa [Text.joinWith_splitAt] at present
  · intro present
    rw [← Option.ne_none_iff_isSome]
    intro unread
    rw [ofMarked?, Option.map_eq_none_iff, unmarkRows_eq_none_iff] at unread
    have absent := Text.not_mem_joinWith markerCharacter_ne_newline unread
    rw [Text.joinWith_splitAt] at absent
    exact absent present

/--
A marked text is read as the buffer that it shows, and nothing else is read.  A
text can be read exactly when it contains a marker, and the rows that are read,
put together again, are the text without its first marker.
-/
theorem ofMarked?_text_and_isSome_iff :
    (∀ marked : Marked, marked.IsMarkable →
      ofMarked? marked.text = some marked) ∧
    ∀ text,
      ((ofMarked? text).isSome ↔ markerCharacter ∈ text.toList) ∧
      ∀ marked, ofMarked? text = some marked →
        marked.IsMarkable ∧ marked.text = text ∧
        Text.join "\n" marked.rows =
          String.ofList (text.toList.erase markerCharacter) := by
  refine ⟨fun marked markable =>
      ofMarked?_eq_some_iff.mpr ⟨markable, rfl⟩,
    fun text => ⟨isSome_ofMarked?_iff text, fun marked read => ?_⟩⟩
  obtain ⟨markable, shown⟩ := ofMarked?_eq_some_iff.mp read
  have marks := ofMarked?_eq_some_iff_markedRows.mp read
  have erased := (marks.mem_joinWith_and_erase markerCharacter_ne_newline).2
  rw [Text.joinWith_splitAt] at erased
  exact ⟨markable, shown, by rw [erased]; rfl⟩

/-- Only the first of two markers stands for the cursor. -/
theorem ofMarked?_text_of_two :
    let marked : Marked :=
      ⟨["größe %>%", "  filter(é, \"a@b\")"], ⟨1, 10⟩⟩
    let text := "größe %>%\n  filter(é@, \"a@b\")"
    marked.IsMarkable ∧ marked.text = text ∧
      ofMarked? text = some marked ∧
      text.toList.count markerCharacter = 2 ∧
      Text.join "\n" marked.rows =
        String.ofList (text.toList.erase markerCharacter) := by
  intro marked text
  have markable : marked.IsMarkable :=
    ⟨by decide, by decide, "  filter(é, \"a@b\")", rfl, by decide, by decide⟩
  have shown : marked.text = text := by decide
  obtain ⟨reads, writes⟩ := ofMarked?_text_and_isSome_iff
  have read : ofMarked? text = some marked := shown ▸ reads marked markable
  exact ⟨markable, shown, read, by decide, ((writes text).2 marked read).2.2⟩

end Buffer
end RCompletion
