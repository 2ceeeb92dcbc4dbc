import RCompletion.Text.Split
import Mathlib.Data.List.Infix

/-!
# Parts of texts

When a text contains another one, and when it starts with another one, which can
be cut off between characters, whether these or bytes are counted.  What ends
with a character that does not occur in the second part of a text is found
in the whole text exactly when it is found in the first part.
-/

namespace RCompletion
namespace Text

/-- A text contains another one exactly when that one is a run of its characters. -/
theorem contains_iff (text needle : String) :
    contains text needle = true ↔ needle.toList <:+: text.toList :=
  occursIn_iff needle.toList text.toList

/-- A text contains `$` exactly when that is one of its characters. -/
theorem contains_dollar_iff (text : String) :
    contains text "$" = true ↔ '$' ∈ text.toList := by
  have single : "$".toList = ['$'] := by decide
  rw [contains_iff, single, List.singleton_infix_iff]

theorem startsWith_iff (text start : String) :
    startsWith text start = true ↔ start.toList <+: text.toList :=
  List.isPrefixOf_iff_prefix

/-- A text that starts with a longer one starts with a shorter one. -/
theorem startsWith_of_startsWith_append
    {text start further : String}
    (starts : startsWith text (start ++ further) = true) :
    startsWith text start = true := by
  rw [startsWith_iff, String.toList_append] at starts
  rw [startsWith_iff]
  exact (List.prefix_append _ _).trans starts

/-- A start and what a text has after it make up the text. -/
theorem append_dropLength
    {text start : String}
    (starts : startsWith text start = true) :
    start ++ dropLength text start = text := by
  rw [startsWith, List.isPrefixOf_iff_prefix] at starts
  obtain ⟨rest, parts⟩ := starts
  rw [dropLength, ← parts, ← String.length_toList, List.drop_left,
    ← String.ofList_toList (s := text), ← parts, String.ofList_append,
    String.ofList_toList]

/-- Leaving out two starts one after the other is leaving out both at once. -/
theorem dropLength_dropLength (text start further : String) :
    dropLength (dropLength text start) further =
      dropLength text (start ++ further) := by
  simp only [dropLength, String.toList_ofList, List.drop_drop,
    String.length_append]

/-! ## Cuts in bytes -/

/-- The bytes of a start are those of whole characters. -/
theorem isValid_rawEndPos_of_startsWith
    {text start : String}
    (starts : startsWith text start = true) :
    start.rawEndPos.IsValid text :=
  String.Pos.Raw.isValid_iff_exists_append.mpr
    ⟨start, dropLength text start, (append_dropLength starts).symm, rfl⟩

/-- Leaving out the characters of a start is leaving out its bytes. -/
theorem toByteArray_dropLength
    {text start : String}
    (starts : startsWith text start = true) :
    (dropLength text start).toByteArray =
      text.toByteArray.extract start.utf8ByteSize text.utf8ByteSize := by
  have parts := congrArg String.toByteArray (append_dropLength starts)
  rw [String.toByteArray_append] at parts
  rw [← parts, ByteArray.extract_append_eq_right]
  · exact String.size_toByteArray.symm
  · rw [← ByteArray.size_append, parts]
    exact String.size_toByteArray.symm

/-! ## Parts that end before the second part -/

section Ending

variable {α : Type} {needle first second : List α} {last : α}

theorem prefix_append_iff_of_getLast?
    (ends : needle.getLast? = some last)
    (absent : last ∉ second) :
    needle <+: first ++ second ↔ needle <+: first := by
  constructor
  · intro starts
    rcases List.prefix_or_prefix_of_prefix starts
        (List.prefix_append first second) with within | beyond
    · exact within
    · -- what reaches into the second part has its last character there
      obtain ⟨rest, rfl⟩ := beyond
      rw [List.prefix_append_right_inj] at starts
      cases restLast : rest.getLast? with
      | none =>
          rw [List.getLast?_eq_none_iff] at restLast
          rw [restLast, List.append_nil]
      | some final =>
          rw [List.getLast?_append, restLast, Option.some_or,
            Option.some.injEq] at ends
          have present := starts.subset (List.mem_of_getLast? restLast)
          exact absurd (ends ▸ present) absent
  · intro starts
    exact starts.trans (List.prefix_append first second)

theorem infix_append_iff_of_getLast?
    (ends : needle.getLast? = some last)
    (absent : last ∉ second) :
    needle <:+: first ++ second ↔ needle <:+: first := by
  have present : last ∈ needle := List.mem_of_getLast? ends
  induction first with
  | nil =>
      rw [List.nil_append, List.infix_nil]
      constructor
      · intro occurs
        exact absurd (occurs.subset present) absent
      · intro nothing
        rw [nothing] at present
        exact absurd present List.not_mem_nil
  | cons element first inductionHypothesis =>
      calc
        needle <:+: element :: first ++ second ↔
            needle <+: element :: first ++ second ∨
              needle <:+: first ++ second := List.infix_cons_iff
        _ ↔ needle <+: element :: first ∨ needle <:+: first :=
          or_congr (prefix_append_iff_of_getLast? ends absent)
            inductionHypothesis
        _ ↔ needle <:+: element :: first := List.infix_cons_iff.symm

end Ending

end Text
end RCompletion
