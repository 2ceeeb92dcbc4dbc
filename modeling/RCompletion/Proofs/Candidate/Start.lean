import RCompletion.Candidate.Selection
import RCompletion.Proofs.Text.Parts
import Mathlib.Data.List.Forall2

/-!
# Selection by the start of a label

What is selected keeps its order and its repetitions.  A selection that takes
the start away offers each of the candidates with the rest of its label and is
otherwise faithful; a selection by a longer start can be made from one by a
shorter start.
-/

namespace RCompletion

/-- A stored candidate is offered without a start of its label. -/
structure Candidate.RestAfter
    (start : String)
    (stored offered : Candidate) : Prop where
  /-- What is offered is the rest of the label. -/
  label : stored.label = start ++ offered.label
  /-- Everything else is as it is stored. -/
  others : offered = { stored with label := offered.label }

theorem Candidate.RestAfter.snippet_eq
    {start : String}
    {stored offered : Candidate}
    (after : RestAfter start stored offered) :
    offered.snippet = stored.snippet := by
  rw [after.others]

namespace Selection

/-! ## What a start selects -/

theorem qualifies_iff
    (start : String)
    (hidden : Option String)
    (candidate : Candidate) :
    qualifies start hidden candidate = true ↔
      start.toList <+: candidate.label.toList ∧
        ∀ text ∈ hidden, ¬ text.toList <:+: candidate.label.toList := by
  rw [qualifies, Bool.and_eq_true, Text.startsWith_iff, Bool.not_eq_true',
    Option.any_eq_false]
  simp only [← Bool.not_eq_true, Text.contains_iff, Option.mem_def]

theorem qualifies_none (start : String) :
    qualifies start none = fun candidate =>
      decide (start.toList <+: candidate.label.toList) := by
  funext candidate
  rw [Bool.eq_iff_iff, qualifies_iff, decide_eq_true_iff]
  exact and_iff_left fun text hides => absurd hides (Option.not_mem_none text)

theorem qualifies_dollar (start : String) :
    qualifies start (some "$") = fun candidate =>
      decide (start.toList <+: candidate.label.toList ∧
        '$' ∉ candidate.label.toList) := by
  funext candidate
  rw [Bool.eq_iff_iff, qualifies_iff, decide_eq_true_iff]
  simp only [Option.mem_some_iff, forall_eq', ← Text.contains_iff,
    Text.contains_dollar_iff]

theorem byStart_append
    (first second : List Candidate)
    (start : String)
    (hidden : Option String)
    (strip : Bool) :
    byStart (first ++ second) start hidden strip =
      byStart first start hidden strip ++
        byStart second start hidden strip := by
  by_cases nothing : start = ""
  · simp only [byStart, if_pos nothing, List.append_nil]
  · cases strip with
    | false => simp only [byStart, if_neg nothing, List.filter_append,
        Bool.false_eq_true, if_false]
    | true => simp only [byStart, if_neg nothing, List.filter_append,
        if_true, List.map_append]

theorem byStart_eq_filter
    {start : String}
    (nonempty : start ≠ "")
    (candidates : List Candidate)
    (hidden : Option String) :
    byStart candidates start hidden false =
      candidates.filter (qualifies start hidden) := by
  simp only [byStart, if_neg nonempty, Bool.false_eq_true, if_false]

theorem mem_of_mem_byStart
    {candidates : List Candidate}
    {candidate : Candidate}
    {start : String}
    {hidden : Option String}
    (selected : candidate ∈ byStart candidates start hidden false) :
    candidate ∈ candidates := by
  by_cases nothing : start = ""
  · rw [nothing, byStart_empty] at selected
    exact absurd selected List.not_mem_nil
  · rw [byStart_eq_filter nothing] at selected
    exact List.mem_of_mem_filter selected

/-- A stripped candidate is the stored one but for the start of its label. -/
theorem restAfter_stripped
    {start : String}
    {candidate : Candidate}
    (starts : start.toList <+: candidate.label.toList) :
    Candidate.RestAfter start candidate (stripped start candidate) := by
  constructor
  · rw [← Text.startsWith_iff] at starts
    exact (Text.append_dropLength starts).symm
  · rfl

/-- Stripping offers the rest of every candidate that starts so, one by one. -/
theorem forall₂_byStart
    {start : String}
    (nonempty : start ≠ "")
    (candidates : List Candidate) :
    List.Forall₂ (Candidate.RestAfter start)
      (candidates.filter (start.toList <+: ·.label.toList))
      (byStart candidates start none true) := by
  simp only [byStart, if_neg nonempty, if_true, qualifies_none]
  rw [List.forall₂_map_right_iff, List.forall₂_same]
  intro candidate selected
  have starts := List.of_mem_filter selected
  rw [decide_eq_true_iff] at starts
  exact restAfter_stripped starts

/-- Stripping offers exactly the rests after a start. -/
theorem mem_byStart_strip_iff
    {start : String}
    (nonempty : start ≠ "")
    (candidates : List Candidate)
    (offered : Candidate) :
    offered ∈ byStart candidates start none true ↔
      ∃ stored ∈ candidates, Candidate.RestAfter start stored offered := by
  simp only [byStart, if_neg nonempty, if_true, qualifies_none,
    List.mem_map, List.mem_filter, decide_eq_true_iff]
  constructor
  · rintro ⟨stored, ⟨present, starts⟩, rfl⟩
    exact ⟨stored, present, restAfter_stripped starts⟩
  · rintro ⟨stored, present, after⟩
    refine ⟨stored, ⟨present, ?_⟩, ?_⟩
    · rw [after.label, String.toList_append]
      exact List.prefix_append _ _
    · have rest : Text.dropLength stored.label start = offered.label := by
        rw [after.label, Text.dropLength, String.toList_append,
          ← String.length_toList, List.drop_left, String.ofList_toList]
      rw [stripped, rest]
      exact after.others.symm

/-! ## Longer starts -/

/-- A longer start selects from what a shorter one has selected. -/
theorem byStart_byStart
    {start : String}
    (nonempty : start ≠ "")
    (further : String)
    (candidates : List Candidate)
    (hidden : Option String) :
    byStart (byStart candidates start hidden false) (start ++ further) none
        false =
      byStart candidates (start ++ further) hidden false := by
  have longer : start ++ further ≠ "" := by
    intro nothing
    rw [String.append_eq_empty_iff] at nothing
    exact nonempty nothing.1
  rw [byStart_eq_filter longer, byStart_eq_filter longer,
    byStart_eq_filter nonempty, List.filter_filter]
  apply List.filter_congr
  intro candidate _
  rw [Bool.eq_iff_iff]
  simp only [qualifies, Bool.and_eq_true, Option.any_none, Bool.not_false,
    and_true]
  constructor
  · rintro ⟨starts, -, visible⟩
    exact ⟨starts, visible⟩
  · rintro ⟨starts, visible⟩
    exact ⟨starts, Text.startsWith_of_startsWith_append starts, visible⟩

end Selection
end RCompletion
