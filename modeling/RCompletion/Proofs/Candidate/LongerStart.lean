import RCompletion.Proofs.Candidate.Start

/-!
# Selecting again by a longer start

A selection can be narrowed without going back to the candidates that it was
made from: by a longer start while the labels are whole, or by what the longer
start has more once the first start is taken away.  A hidden text leaves out the
same candidates in both cases, wherever it stands in their labels.
-/

namespace RCompletion
namespace Selection

/-! ## What qualifies -/

variable {start further : String} {hidden : Option String}

/-- What qualifies for a longer start qualifies for the start. -/
theorem qualifies_of_qualifies_append
    {candidate : Candidate}
    (longer : qualifies (start ++ further) hidden candidate = true) :
    qualifies start hidden candidate = true := by
  rw [qualifies_iff, String.toList_append] at longer
  rw [qualifies_iff]
  exact ⟨(List.prefix_append _ _).trans longer.1, longer.2⟩

/-- Of a label that is not hidden, the rest qualifies as the whole label does. -/
theorem qualifies_rest_iff
    {stored offered : Candidate}
    (visible : qualifies start hidden stored = true)
    (after : Candidate.RestAfter start stored offered)
    (further : String) :
    qualifies further hidden offered = true ↔
      qualifies (start ++ further) hidden stored = true := by
  rw [qualifies_iff] at visible
  rw [qualifies_iff, qualifies_iff]
  have label :
      stored.label.toList = start.toList ++ offered.label.toList := by
    rw [after.label, String.toList_append]
  have starts :
      (start ++ further).toList <+: stored.label.toList ↔
        further.toList <+: offered.label.toList := by
    rw [label, String.toList_append]
    exact List.prefix_append_right_inj _
  -- the whole label has every text of its rest, and none of its texts is hidden
  have restVisible :
      ∀ text ∈ hidden, ¬ text.toList <:+: offered.label.toList := by
    intro text hides within
    apply visible.2 text hides
    rw [label]
    exact within.trans (List.suffix_append _ _).isInfix
  rw [starts]
  exact and_congr_right fun _ => iff_of_true restVisible visible.2

/-- Selecting among what is selected leaves what the longer start selects. -/
theorem filter_qualifies_append (candidates : List Candidate) :
    (candidates.filter (qualifies start hidden)).filter
        (qualifies (start ++ further) hidden) =
      candidates.filter (qualifies (start ++ further) hidden) := by
  rw [List.filter_filter]
  apply List.filter_congr
  intro candidate _
  rw [Bool.eq_iff_iff, Bool.and_eq_true]
  exact and_iff_left_of_imp qualifies_of_qualifies_append

/-! ## Labels without their start -/

theorem byStart_strip_eq_map
    (candidates : List Candidate)
    (start : String)
    (hidden : Option String) :
    byStart candidates start hidden true =
      (byStart candidates start hidden false).map (stripped start) := by
  by_cases nothing : start = ""
  · rw [nothing, byStart_empty, byStart_empty, List.map_nil]
  · simp only [byStart, if_neg nothing, if_true, Bool.false_eq_true, if_false]

/-- Taking away two starts in turn is taking away both at once. -/
theorem stripped_stripped (start further : String) (candidate : Candidate) :
    stripped further (stripped start candidate) =
      stripped (start ++ further) candidate := by
  simp only [stripped, Text.dropLength_dropLength]

/-- A candidate with a text put before its label. -/
def withStart (start : String) (candidate : Candidate) : Candidate :=
  { candidate with label := start ++ candidate.label }

theorem withStart_stripped
    {candidate : Candidate}
    (starts : Text.startsWith candidate.label start = true) :
    withStart start (stripped start candidate) = candidate := by
  obtain ⟨label, category, package, menu, snippet, arguments⟩ := candidate
  simp only [withStart, stripped, Text.append_dropLength starts]

theorem startsWith_of_mem_byStart
    {candidates : List Candidate}
    {candidate : Candidate}
    (selected : candidate ∈ byStart candidates start hidden false) :
    Text.startsWith candidate.label start = true := by
  by_cases nothing : start = ""
  · rw [nothing, byStart_empty] at selected
    exact absurd selected List.not_mem_nil
  · rw [byStart_eq_filter nothing] at selected
    have qualified := List.of_mem_filter selected
    rw [qualifies_iff] at qualified
    exact (Text.startsWith_iff _ _).mpr qualified.1

/-- What is selected among rests is what the longer start selects. -/
theorem filter_map_stripped (candidates : List Candidate) :
    ((candidates.filter (qualifies start hidden)).map (stripped start)).filter
        (qualifies further hidden) =
      (candidates.filter (qualifies (start ++ further) hidden)).map
        (stripped start) := by
  rw [List.filter_map, ← filter_qualifies_append candidates]
  congr 1
  apply List.filter_congr
  intro candidate selected
  have visible := List.of_mem_filter selected
  have after := restAfter_stripped ((qualifies_iff _ _ _).mp visible).1
  rw [Function.comp_apply, Bool.eq_iff_iff]
  exact qualifies_rest_iff visible after further

/-! ## Selecting twice -/

/--
Selecting by a start and then by a longer one is selecting by the longer one,
whether the labels stay whole or each selection takes away its part of the
longer start.  Putting a start back gives the candidates as they are stored.
The start is cut off at the end of its bytes, which is always the end of one of
the label's characters.
-/
theorem byStart_byStart_and_withStart
    (candidates : List Candidate)
    {start further : String}
    (startFilled : start ≠ "")
    (furtherFilled : further ≠ "")
    (hidden : Option String) :
    byStart (byStart candidates start hidden false) (start ++ further) hidden
        false =
      byStart candidates (start ++ further) hidden false ∧
    byStart (byStart candidates start hidden true) further hidden true =
      byStart candidates (start ++ further) hidden true ∧
    (byStart candidates start hidden true).map (withStart start) =
      byStart candidates start hidden false ∧
    ∀ candidate ∈ byStart candidates start hidden false,
      start.rawEndPos.IsValid candidate.label ∧
        (stripped start candidate).label.toByteArray =
          candidate.label.toByteArray.extract start.utf8ByteSize
            candidate.label.utf8ByteSize := by
  have longerFilled : start ++ further ≠ "" := by
    rw [Ne, String.append_eq_empty_iff]
    exact fun nothing => startFilled nothing.1
  refine ⟨?whole, ?rests, ?putBack, ?cut⟩
  case whole =>
    rw [byStart_eq_filter startFilled, byStart_eq_filter longerFilled,
      byStart_eq_filter longerFilled, filter_qualifies_append]
  case rests =>
    calc
      byStart (byStart candidates start hidden true) further hidden true =
          (((candidates.filter (qualifies start hidden)).map
            (stripped start)).filter (qualifies further hidden)).map
              (stripped further) := by
        rw [byStart_strip_eq_map, byStart_eq_filter furtherFilled,
          byStart_strip_eq_map, byStart_eq_filter startFilled]
      _ = (candidates.filter (qualifies (start ++ further) hidden)).map
            (stripped (start ++ further)) := by
        rw [filter_map_stripped, List.map_map]
        apply List.map_congr_left
        intro candidate _
        exact stripped_stripped start further candidate
      _ = byStart candidates (start ++ further) hidden true := by
        rw [byStart_strip_eq_map, byStart_eq_filter longerFilled]
  case putBack =>
    rw [byStart_strip_eq_map, List.map_map]
    calc
      (byStart candidates start hidden false).map
            (withStart start ∘ stripped start) =
          (byStart candidates start hidden false).map id := by
        apply List.map_congr_left
        intro candidate selected
        exact withStart_stripped (startsWith_of_mem_byStart selected)
      _ = byStart candidates start hidden false := List.map_id _
  case cut =>
    intro candidate selected
    have starts := startsWith_of_mem_byStart selected
    exact ⟨Text.isValid_rawEndPos_of_startsWith starts,
      Text.toByteArray_dropLength starts⟩

/-- Labels that start with a character of two bytes.  One hidden text stands in
a rest, another one only in a whole label. -/
theorem byStart_byStart_umlaut :
    let candidates :=
      ["ä$b", "ä$bc", "ä$b$c", "b$", "ä$$"].map
        (Candidate.plain · (.object "numeric"))
    "ä" ≠ "" ∧ "$b" ≠ "" ∧
    byStart (byStart candidates "ä" (some "$b$") true) "$b" (some "$b$") true =
      byStart candidates "ä$b" (some "$b$") true ∧
    (byStart candidates "ä$b" (some "$b$") true).map (·.label) = ["", "c"] ∧
    (byStart candidates "ä" (some "ä$$") true).map (·.label) =
      ["$b", "$bc", "$b$c"] ∧
    (byStart candidates "ä" (some "ä$$") true).map (withStart "ä") =
      byStart candidates "ä" (some "ä$$") false ∧
    "ä".utf8ByteSize = 2 := by
  intro candidates
  have filled : "ä" ≠ "" := by decide
  have furtherFilled : "$b" ≠ "" := by decide
  obtain ⟨-, rests, -, -⟩ :=
    byStart_byStart_and_withStart candidates filled furtherFilled (some "$b$")
  obtain ⟨-, -, putBack, -⟩ :=
    byStart_byStart_and_withStart candidates filled furtherFilled (some "ä$$")
  refine ⟨filled, furtherFilled, rests, ?_, ?_, putBack, ?_⟩
  all_goals decide

end Selection
end RCompletion
