import RCompletion.Proofs.Store.Every

/-!
# Snippets of records

The snippet of a candidate is inserted in place of its label.  For every record
of a listing it starts with the label of the candidate, and so do the snippets
of the arguments of a function.
-/

namespace RCompletion
namespace Candidate

/-- The snippet of a candidate, if there is one, starts with the label. -/
def CompletesLabel (candidate : Candidate) : Prop :=
  ∀ snippet ∈ candidate.snippet, candidate.label.toList <+: snippet.toList

/-- The snippets of a candidate and of its arguments start with their labels. -/
structure CompletesThroughout (candidate : Candidate) : Prop where
  own : candidate.CompletesLabel
  arguments : ∀ arguments ∈ candidate.arguments,
    ∀ argument ∈ arguments, argument.CompletesLabel

theorem completesLabel_of_snippet_eq
    {candidate : Candidate}
    {rest : String}
    (template : candidate.snippet = some (candidate.label ++ rest)) :
    candidate.CompletesLabel := by
  intro snippet known
  rw [template, Option.mem_def, Option.some.injEq] at known
  rw [← known, String.toList_append]
  exact List.prefix_append _ _

theorem completesLabel_of_snippet_eq_none
    {candidate : Candidate}
    (plain : candidate.snippet = none) :
    candidate.CompletesLabel := by
  intro snippet known
  rw [plain] at known
  exact absurd known (Option.not_mem_none snippet)

theorem completesLabel_argument (token : String) :
    (argument token).CompletesLabel := by
  apply completesLabel_of_snippet_eq
  rw [label_argument]
  exact snippet_argument token

/-- Without arguments only the own snippet counts. -/
theorem CompletesLabel.throughout
    {candidate : Candidate}
    (completes : candidate.CompletesLabel)
    (undescribed : candidate.arguments = none) :
    candidate.CompletesThroughout where
  own := completes
  arguments := by
    intro arguments known
    rw [undescribed] at known
    exact absurd known (Option.not_mem_none arguments)

end Candidate

namespace Listing

/-- A call template starts with the name of the function. -/
theorem exists_callTemplate_eq_append
    (function : String)
    (tokens : List String) :
    ∃ rest, callTemplate function tokens = function ++ rest := by
  unfold callTemplate
  split
  · exact ⟨"()", rfl⟩
  · simp only [String.append_assoc]
    exact ⟨_, rfl⟩

theorem completesThroughout_functionCandidate
    (word package : String)
    (tokens : List String) :
    (functionCandidate word package tokens).CompletesThroughout := by
  cases described : tokens.isEmpty with
  | true =>
      apply Candidate.CompletesLabel.throughout
      · apply Candidate.completesLabel_of_snippet_eq
        rw [snippet_functionCandidate, label_functionCandidate,
          if_pos described]
      · rw [arguments_functionCandidate, if_pos described]
  | false =>
      have several : ¬tokens.isEmpty = true := by rw [described]; simp
      constructor
      · obtain ⟨rest, template⟩ := exists_callTemplate_eq_append word tokens
        apply Candidate.completesLabel_of_snippet_eq
        rw [snippet_functionCandidate, label_functionCandidate,
          if_neg several, template]
      · intro arguments known argument offered
        rw [arguments_functionCandidate, if_neg several, Option.mem_def,
          Option.some.injEq] at known
        rw [← known] at offered
        obtain ⟨token, -, rfl⟩ := List.mem_map.mp offered
        exact Candidate.completesLabel_argument token

theorem completesLabel_of_snippet_eq_objectSnippet
    {candidate : Candidate}
    (template :
      candidate.snippet = objectSnippet candidate.label candidate.category) :
    candidate.CompletesLabel := by
  unfold objectSnippet at template
  split at template
  · exact Candidate.completesLabel_of_snippet_eq template
  · split at template
    · exact Candidate.completesLabel_of_snippet_eq template
    · exact Candidate.completesLabel_of_snippet_eq_none template

/-- The snippets of every record start with their labels. -/
theorem gives_completesThroughout :
    Gives Candidate.CompletesThroughout := by
  intro record candidate described
  unfold Record.candidate? at described
  split at described
  · exact absurd described (by simp)
  · split at described
    · obtain rfl := Option.some.inj described
      exact (Candidate.completesLabel_argument record.word).throughout
        (Candidate.arguments_argument record.word)
    · obtain rfl := Option.some.inj described
      exact completesThroughout_functionCandidate _ _ _
    · obtain rfl := Option.some.inj described
      exact (completesLabel_of_snippet_eq_objectSnippet rfl).throughout rfl

end Listing
end RCompletion
