import RCompletion.Proofs.Store.Every

/-!
# Well-formed candidates

Which parts a candidate has depends on its category: whether it has a template,
how wide its menu line is, and whether it describes arguments.  The candidate of
every record, however malformed its line, has the parts that its category asks
for, and so have the arguments that it describes.
-/

namespace RCompletion
namespace Candidate

/-- The parts of a candidate fit its category. -/
structure WellFormed (candidate : Candidate) : Prop where
  /-- No object has the tag of another category. -/
  object : ∀ tag, candidate.category = .object tag →
    tag ∉ ["function", "package", "argument"]
  /-- The category is the one that its tag names. -/
  tag : Category.ofTag candidate.category.tag = candidate.category
  /-- Functions, packages, arguments and data frames have a template. -/
  snippet : candidate.snippet.isSome = true ↔
    candidate.category ∈ [.function, .package, .argument,
      .object "data.frame", .object "tbl_df"]
  /-- The menu line fills its first column. -/
  menu : 10 ≤ candidate.menu.length
  /-- Only arguments and described functions show more. -/
  column : candidate.category ≠ .argument →
    ¬(candidate.category = .function ∧ candidate.arguments.isSome = true) →
      candidate.menu.length = 10
  /-- Only functions describe arguments, with a template and nothing else. -/
  arguments : ∀ arguments ∈ candidate.arguments,
    candidate.category = .function ∧ ∀ argument ∈ arguments,
      argument.category = .argument ∧ argument.package = none ∧
        argument.snippet.isSome = true ∧ argument.arguments = none

/-- A candidate has a property, and so have the arguments that it describes. -/
structure Throughout
    (property : Candidate → Prop)
    (candidate : Candidate) : Prop where
  own : property candidate
  arguments : ∀ arguments ∈ candidate.arguments,
    ∀ argument ∈ arguments, property argument

/-- Without arguments only the candidate counts. -/
theorem Throughout.of_arguments_eq_none
    {property : Candidate → Prop}
    {candidate : Candidate}
    (own : property candidate)
    (undescribed : candidate.arguments = none) :
    candidate.Throughout property where
  own := own
  arguments := by
    intro arguments known
    rw [undescribed] at known
    exact absurd known (Option.not_mem_none arguments)

theorem wellFormed_argument (token : String) :
    (argument token).WellFormed where
  object := by simp
  tag := by rw [category_argument]; rfl
  snippet := by simp [snippet_argument]
  menu := by
    rw [menu_argument, String.length_append, length_menuColumn]
    exact Nat.le_add_right _ _
  column := by simp
  arguments := by simp

end Candidate

namespace Category

/-- A category that its tag names is no object with another one's tag. -/
theorem not_mem_of_ofTag_tag
    {category : Category}
    (named : ofTag category.tag = category) :
    ∀ tag, category = .object tag →
      tag ∉ ["function", "package", "argument"] := by
  rintro tag rfl
  have apart := (ofTag_eq_object_iff tag tag).mp named
  simpa using apart.2

theorem isDataFrame_iff (category : Category) :
    category.isDataFrame = true ↔
      category = .object "data.frame" ∨ category = .object "tbl_df" := by
  cases category <;> simp [isDataFrame]

end Category

namespace Listing

/-- The arguments of a function are the candidates of its tokens. -/
theorem exists_of_mem_arguments_functionCandidate
    {word package : String}
    {tokens : List String}
    {arguments : List Candidate}
    {argument : Candidate}
    (known : arguments ∈ (functionCandidate word package tokens).arguments)
    (offered : argument ∈ arguments) :
    ∃ token ∈ tokens, Candidate.argument token = argument := by
  rw [arguments_functionCandidate] at known
  split at known
  · exact absurd known (Option.not_mem_none arguments)
  · obtain rfl := Option.some.inj known
    obtain ⟨token, kept, rfl⟩ := List.mem_map.mp offered
    exact ⟨token, List.mem_of_mem_filter kept, rfl⟩

theorem wellFormed_functionCandidate
    (word package : String)
    (tokens : List String) :
    (functionCandidate word package tokens).WellFormed where
  object := by simp
  tag := by rw [category_functionCandidate]; rfl
  snippet := by simp [snippet_functionCandidate]
  menu := by
    rw [menu_functionCandidate]
    split
    · rw [length_menuColumn]
      rfl
    · simp only [String.length_append, length_menuColumn, menuWidth]
      omega
  column := by
    -- a line longer than its column comes with arguments
    rw [menu_functionCandidate, arguments_functionCandidate]
    split
    · intro _ _
      exact length_menuColumn _
    · simp
  arguments := by
    intro arguments known
    refine ⟨category_functionCandidate _ _ _, fun argument offered => ?_⟩
    obtain ⟨token, -, rfl⟩ :=
      exists_of_mem_arguments_functionCandidate known offered
    simp [Candidate.snippet_argument]

theorem isSome_objectSnippet_iff
    (word : String)
    {category : Category}
    (noFunction : category ≠ .function)
    (noArgument : category ≠ .argument) :
    (objectSnippet word category).isSome = true ↔
      category ∈ [.function, .package, .argument,
        .object "data.frame", .object "tbl_df"] := by
  simp only [List.mem_cons, List.not_mem_nil, noFunction, noArgument, or_false,
    false_or, ← Category.isDataFrame_iff]
  unfold objectSnippet
  split
  · simp_all
  · split <;> simp_all

/-- Objects and packages have no more than a column and perhaps a template. -/
theorem wellFormed_object
    {category : Category}
    (noFunction : category ≠ .function)
    (noArgument : category ≠ .argument)
    (named : Category.ofTag category.tag = category)
    (word : String)
    (package : Option String) :
    { Candidate.plain word category with
      package := package
      snippet := objectSnippet word category }.WellFormed where
  object := Category.not_mem_of_ofTag_tag named
  tag := named
  snippet := isSome_objectSnippet_iff word noFunction noArgument
  menu := (length_menuColumn _).ge
  column := fun _ _ => length_menuColumn _
  arguments := by
    intro arguments known
    exact absurd known (Option.not_mem_none arguments)

/-- Every record gives a well-formed candidate, with well-formed arguments. -/
theorem gives_wellFormed :
    Gives (Candidate.Throughout Candidate.WellFormed) := by
  intro record candidate described
  unfold Record.candidate? at described
  split at described
  · exact absurd described (by simp)
  · split at described
    · obtain rfl := Option.some.inj described
      exact .of_arguments_eq_none (Candidate.wellFormed_argument record.word)
        (Candidate.arguments_argument record.word)
    · obtain rfl := Option.some.inj described
      refine ⟨wellFormed_functionCandidate _ _ _, ?_⟩
      intro arguments known argument offered
      obtain ⟨token, -, rfl⟩ :=
        exists_of_mem_arguments_functionCandidate known offered
      exact Candidate.wellFormed_argument token
    · rename_i noArgument noFunction
      obtain rfl := Option.some.inj described
      refine .of_arguments_eq_none (wellFormed_object noFunction noArgument ?_
        record.word _) rfl
      rw [Category.tag_ofTag]

end Listing
end RCompletion
