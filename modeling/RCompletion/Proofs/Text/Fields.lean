import RCompletion.Text.Split
import Mathlib.Data.List.Basic

/-!
# Fields put together

Fields that do not contain the separator are found again in the text that they
were put together to.
-/

namespace RCompletion
namespace Text

/-- A separator cuts a list into two whose pieces are found one after the other. -/
theorem splitAt_append_cons {α : Type} [DecidableEq α]
    (separator : α)
    (elements rest : List α) :
    splitAt separator (elements ++ separator :: rest) =
      splitAt separator elements ++ splitAt separator rest := by
  induction elements with
  | nil => exact splitAt_separator separator rest
  | cons element elements inductionHypothesis =>
      by_cases separates : element = separator
      · rw [List.cons_append, separates, splitAt_separator,
          splitAt_separator, inductionHypothesis, List.cons_append]
      · rw [List.cons_append, splitAt, splitAt, if_neg separates,
          if_neg separates, inductionHypothesis]
        cases parts : splitAt separator elements with
        | nil => exact absurd parts (splitAt_ne_nil separator elements)
        | cons piece pieces => rfl

/-- The pieces between separators are found again. -/
theorem splitAt_joinWith {α : Type} [DecidableEq α]
    {separator : α}
    {pieces : List (List α)}
    (nonempty : pieces ≠ [])
    (absent : ∀ piece ∈ pieces, separator ∉ piece) :
    splitAt separator (joinWith [separator] pieces) = pieces := by
  induction pieces with
  | nil => exact absurd rfl nonempty
  | cons piece pieces inductionHypothesis =>
      obtain ⟨first, rest⟩ := List.forall_mem_cons.mp absent
      cases pieces with
      | nil => exact splitAt_of_not_mem first
      | cons next pieces =>
          rw [joinWith, List.append_assoc, List.singleton_append,
            splitAt_append_separator first,
            inductionHypothesis (List.cons_ne_nil _ _) rest]

/-- Put together again, the pieces between separators are the whole list. -/
theorem joinWith_splitAt {α : Type} [DecidableEq α]
    (separator : α)
    (elements : List α) :
    joinWith [separator] (splitAt separator elements) = elements := by
  induction elements with
  | nil => rfl
  | cons element rest inductionHypothesis =>
      cases parts : splitAt separator rest with
      | nil => exact absurd parts (splitAt_ne_nil separator rest)
      | cons piece pieces =>
          rw [parts] at inductionHypothesis
          by_cases separates : element = separator
          · rw [separates, splitAt_separator, parts, joinWith,
              inductionHypothesis]
            rfl
          · rw [splitAt, if_neg separates, parts, ← inductionHypothesis]
            cases pieces <;> rfl

/-- The fields of a text are the texts that it was put together from. -/
theorem fields_join
    {separator : Char}
    {texts : List String}
    (nonempty : texts ≠ [])
    (absent : ∀ text ∈ texts, separator ∉ text.toList) :
    fields separator (join (String.singleton separator) texts) = texts := by
  have absentPieces : ∀ piece ∈ texts.map String.toList, separator ∉ piece := by
    intro piece present
    obtain ⟨text, known, rfl⟩ := List.mem_map.mp present
    exact absent text known
  have split :
      splitAt separator (joinWith [separator] (texts.map String.toList)) =
        texts.map String.toList :=
    splitAt_joinWith (by simpa using nonempty) absentPieces
  rw [fields, join, String.toList_ofList, String.toList_singleton, split,
    List.map_map]
  simp

/-- The pieces between separators do not contain the separator. -/
theorem not_mem_of_mem_splitAt {α : Type} [DecidableEq α]
    {separator : α}
    {elements piece : List α}
    (present : piece ∈ splitAt separator elements) :
    separator ∉ piece := by
  induction elements generalizing piece with
  | nil =>
      rw [splitAt_nil, List.mem_singleton] at present
      exact present ▸ List.not_mem_nil
  | cons element rest inductionHypothesis =>
      by_cases separates : element = separator
      · rw [separates, splitAt_separator, List.mem_cons] at present
        rcases present with rfl | present
        · exact List.not_mem_nil
        · exact inductionHypothesis present
      · rw [splitAt, if_neg separates] at present
        cases parts : splitAt separator rest with
        | nil => exact absurd parts (splitAt_ne_nil separator rest)
        | cons first pieces =>
            rw [parts] at present inductionHypothesis
            rcases List.mem_cons.mp present with rfl | later
            · rw [List.mem_cons, not_or]
              exact ⟨Ne.symm separates,
                inductionHypothesis List.mem_cons_self⟩
            · exact inductionHypothesis (List.mem_cons_of_mem first later)

theorem join_cons_cons (separator text next : String) (texts : List String) :
    join separator (text :: next :: texts) =
      text ++ separator ++ join separator (next :: texts) := by
  rw [← String.toList_inj]
  simp [join, joinWith]

/-- Joining texts is putting a text between each two of them. -/
theorem join_eq_intercalate (separator : String) (texts : List String) :
    join separator texts = separator.intercalate texts := by
  induction texts with
  | nil => rfl
  | cons text texts inductionHypothesis =>
      cases texts with
      | nil => simp [join, joinWith]
      | cons next texts =>
          rw [join_cons_cons, inductionHypothesis,
            String.intercalate_cons_cons]

/-- Put together again, the fields of a text are the whole text. -/
theorem join_fields (separator : Char) (text : String) :
    join (String.singleton separator) (fields separator text) = text := by
  have pieces :
      (fields separator text).map String.toList =
        splitAt separator text.toList := by
    rw [fields, List.map_map]
    simp
  rw [join, pieces, String.toList_singleton, joinWith_splitAt,
    String.ofList_toList]

/-- The fields of a text do not contain the separator. -/
theorem not_mem_of_mem_fields
    {separator : Char}
    {text field : String}
    (present : field ∈ fields separator text) :
    separator ∉ field.toList := by
  obtain ⟨piece, listed, rfl⟩ := List.mem_map.mp present
  rw [String.toList_ofList]
  exact not_mem_of_mem_splitAt listed

theorem not_mem_joinWith {α : Type}
    {element separator : α}
    (other : element ≠ separator)
    {pieces : List (List α)}
    (absent : ∀ piece ∈ pieces, element ∉ piece) :
    element ∉ joinWith [separator] pieces := by
  induction pieces with
  | nil => exact List.not_mem_nil
  | cons piece pieces inductionHypothesis =>
      obtain ⟨first, rest⟩ := List.forall_mem_cons.mp absent
      cases pieces with
      | nil => exact first
      | cons next pieces =>
          simp only [joinWith, List.mem_append, List.mem_singleton, not_or]
          exact ⟨⟨first, other⟩, inductionHypothesis rest⟩

/-- A text has no character that is neither in its fields nor between them. -/
theorem not_mem_join
    {character separator : Char}
    (other : character ≠ separator)
    {texts : List String}
    (absent : ∀ text ∈ texts, character ∉ text.toList) :
    character ∉ (join (String.singleton separator) texts).toList := by
  rw [join, String.toList_ofList, String.toList_singleton]
  refine not_mem_joinWith other fun piece present => ?_
  obtain ⟨text, known, rfl⟩ := List.mem_map.mp present
  exact absent text known

/-- A text that none was put into has a field, but none that is not empty. -/
theorem filter_fields_join
    {separator : Char}
    {texts : List String}
    (filled : ∀ text ∈ texts, text ≠ "")
    (absent : ∀ text ∈ texts, separator ∉ text.toList) :
    (fields separator (join (String.singleton separator) texts)).filter
        (· ≠ "") = texts := by
  cases texts with
  | nil => rfl
  | cons text texts =>
      rw [fields_join (List.cons_ne_nil _ _) absent, List.filter_eq_self]
      intro field present
      exact decide_eq_true (filled field present)

end Text
end RCompletion
