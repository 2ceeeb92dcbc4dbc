import RCompletion.Listing.File
import RCompletion.Listing.Record
import RCompletion.Proofs.Text.Fields
import RCompletion.Proofs.Text.Trimmed

/-!
# Respaced listings

A listing is read row by row, without the blanks around a row, and a blank row
describes nothing.  The candidates of a listing are therefore the same when its
rows end with carriage returns, when there are blanks around them, and when
there are blank rows between them.
-/

namespace RCompletion

namespace Text

/-! ## Lines -/

/-- A carriage return at the end of a line is one of the blanks around it. -/
theorem trimmed_dropReturn (line : List Char) :
    trimmed (dropReturn line) = trimmed line := by
  unfold dropReturn
  split
  case h_1 rest backwards =>
    have ended : line = [] ++ rest.reverse ++ ['\r'] := by
      rw [List.nil_append, ← List.reverse_cons, ← backwards,
        List.reverse_reverse]
    rw [ended, trimmed_between (by decide) (by decide)]
  case h_2 => rfl

theorem trim_ofList (characters : List Char) :
    trim (String.ofList characters) = String.ofList (trimmed characters) := by
  rw [trim, String.toList_ofList]

end Text

namespace Listing

/-! ## Candidates of rows -/

/-- Blanks around a line make no difference to its candidate. -/
theorem candidate?_trim (line : String) :
    candidate? (Text.trim line) = candidate? line := by
  rw [candidate?, candidate?, Record.ofLine, Record.ofLine, Text.trim_trim]

/-- The candidate that a row of characters describes. -/
def rowCandidate? (row : List Char) : Option Candidate :=
  candidate? (String.ofList row)

theorem rowCandidate?_eq_of_trimmed_eq
    {row other : List Char}
    (same : Text.trimmed row = Text.trimmed other) :
    rowCandidate? row = rowCandidate? other := by
  rw [rowCandidate?, ← candidate?_trim, Text.trim_ofList, same,
    ← Text.trim_ofList, candidate?_trim, rowCandidate?]

theorem rowCandidate?_of_allBlank
    {row : List Char}
    (blank : Text.AllBlank row) :
    rowCandidate? row = none := by
  have same : Text.trimmed row = Text.trimmed [] := by
    rw [Text.trimmed_of_allBlank blank, Text.trimmed_nil]
  rw [rowCandidate?_eq_of_trimmed_eq same]
  rfl

/-- The lines of a text describe the candidates that its rows describe. -/
theorem filterMap_rowCandidate?_lineList (rows : List (List Char)) :
    (Text.lineList rows).filterMap rowCandidate? =
      rows.filterMap rowCandidate? := by
  induction rows using Text.lineList.induct with
  | case1 => rfl
  | case2 last empty =>
      rw [List.isEmpty_iff.mp empty]
      rfl
  | case3 last filled => rw [Text.lineList, if_neg filled]
  | case4 line next rows inductionHypothesis =>
      rw [Text.lineList, List.filterMap_cons, List.filterMap_cons,
        inductionHypothesis,
        rowCandidate?_eq_of_trimmed_eq (Text.trimmed_dropReturn line)]

/-- The candidates of a listing are those of its rows. -/
theorem candidates_recordsOfText (text : String) :
    candidates (recordsOfText text) =
      (Text.splitAt '\n' text.toList).filterMap rowCandidate? := by
  have trims : (candidate? ∘ Text.trim) ∘ String.ofList = rowCandidate? := by
    funext row
    rw [Function.comp_apply, Function.comp_apply, candidate?_trim,
      rowCandidate?]
  rw [candidates, recordsOfText, Text.lines, List.filterMap_map,
    List.filterMap_map, trims, filterMap_rowCandidate?_lineList]

/-! ## Respacing -/

/-- Rows that differ from others by blanks around them and by blank rows. -/
inductive RespacedRows : List (List Char) → List (List Char) → Prop
  /-- There are no rows. -/
  | nil : RespacedRows [] []
  /-- A row gets blanks around it. -/
  | row {before after : List Char} {rows others : List (List Char)}
      (row : List Char)
      (blankBefore : Text.AllBlank before)
      (blankAfter : Text.AllBlank after)
      (rest : RespacedRows rows others) :
      RespacedRows (row :: rows) ((before ++ row ++ after) :: others)
  /-- A blank row is added. -/
  | blankRow {added : List Char} {rows others : List (List Char)}
      (blank : Text.AllBlank added)
      (rest : RespacedRows rows others) :
      RespacedRows rows (added :: others)

/-- A text with the rows of another one, and with more blanks between them. -/
def Respaced (text other : String) : Prop :=
  RespacedRows
    (Text.splitAt '\n' text.toList) (Text.splitAt '\n' other.toList)

/-- Rows may stay as they are. -/
theorem RespacedRows.refl (rows : List (List Char)) : RespacedRows rows rows := by
  induction rows with
  | nil => exact .nil
  | cons row rows inductionHypothesis =>
      have kept : RespacedRows (row :: rows) (([] ++ row ++ []) :: rows) :=
        .row row (by decide) (by decide) inductionHypothesis
      rwa [List.nil_append, List.append_nil] at kept

/-- Every row but the last one may get a carriage return at its end. -/
theorem RespacedRows.splitAt_joinWith_returns
    {rows : List (List Char)}
    (nonempty : rows ≠ [])
    (absent : ∀ row ∈ rows, '\n' ∉ row) :
    RespacedRows rows
      (Text.splitAt '\n' (Text.joinWith ['\r', '\n'] rows)) := by
  induction rows with
  | nil => exact absurd rfl nonempty
  | cons row rows inductionHypothesis =>
      obtain ⟨first, rest⟩ := List.forall_mem_cons.mp absent
      cases rows with
      | nil =>
          rw [Text.joinWith, Text.splitAt_of_not_mem first]
          exact .refl [row]
      | cons next rows =>
          have ended : '\n' ∉ [] ++ row ++ ['\r'] := by simp [first]
          have parts :
              Text.joinWith ['\r', '\n'] (row :: next :: rows) =
                ([] ++ row ++ ['\r']) ++
                  '\n' :: Text.joinWith ['\r', '\n'] (next :: rows) := by
            simp [Text.joinWith]
          -- the carriage return stays at the end of the row before it
          rw [parts, Text.splitAt_append_separator ended]
          exact .row row (by decide) (by decide)
            (inductionHypothesis (List.cons_ne_nil _ _) rest)

/-- A text may be rewritten with carriage returns at the ends of its rows. -/
theorem respaced_join_returns (text : String) :
    Respaced text (Text.join "\r\n" (Text.fields '\n' text)) := by
  have returns : "\r\n".toList = ['\r', '\n'] := by decide
  have rows :
      (Text.fields '\n' text).map String.toList =
        Text.splitAt '\n' text.toList := by
    rw [Text.fields, List.map_map]
    simp
  rw [Respaced, Text.join, String.toList_ofList, returns, rows]
  exact .splitAt_joinWith_returns (Text.splitAt_ne_nil _ _)
    fun row present => Text.not_mem_of_mem_splitAt present

theorem RespacedRows.filterMap_rowCandidate?
    {rows others : List (List Char)}
    (respaced : RespacedRows rows others) :
    others.filterMap rowCandidate? = rows.filterMap rowCandidate? := by
  induction respaced with
  | nil => rfl
  | row row blankBefore blankAfter rest inductionHypothesis =>
      have same := Text.trimmed_between blankBefore blankAfter row
      rw [List.filterMap_cons, List.filterMap_cons, inductionHypothesis,
        rowCandidate?_eq_of_trimmed_eq same]
  | blankRow blank rest inductionHypothesis =>
      rw [List.filterMap_cons_none (rowCandidate?_of_allBlank blank),
        inductionHypothesis]

/-- A respaced listing gives the same candidates. -/
theorem Respaced.candidates_eq
    {text other : String}
    (respaced : Respaced text other) :
    candidates (recordsOfText other) = candidates (recordsOfText text) := by
  rw [candidates_recordsOfText, candidates_recordsOfText,
    respaced.filterMap_rowCandidate?]

end Listing
end RCompletion
