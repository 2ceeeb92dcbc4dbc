import RCompletion.Proofs.Candidate.Start
import RCompletion.Proofs.Engine.Answer
import RCompletion.Proofs.Engine.Arguments

/-!
# Where offered candidates come from

An answer offers stored candidates, arguments of stored functions, and objects
without a start of their label.  Labels lose a start in a pipe chain and where
the word reaches into an object, and nowhere else.
-/

namespace RCompletion
namespace Buffer

/-- What the labels of objects lose in a context. -/
def Context.lostStart? (context : Context) : Option String :=
  match context.pipe with
  | some source => some (source ++ "$")
  | none => if context.isFieldAccess then some context.word else none

theorem Context.ne_empty_of_mem_lostStart?
    {context : Context}
    {start : String}
    (lost : start ∈ context.lostStart?) :
    start ≠ "" := by
  intro nothing
  unfold lostStart? at lost
  split at lost
  · rw [Option.mem_def, Option.some.injEq, nothing,
      String.append_eq_empty_iff] at lost
    exact absurd lost.2 (by decide)
  · split at lost
    · rename_i access
      rw [Option.mem_def, Option.some.injEq, nothing] at lost
      rw [isFieldAccess, lost] at access
      exact absurd access (by decide)
    · exact absurd lost (Option.not_mem_none start)

end Buffer

namespace Store

variable
  {store : Store}
  {configuration : Configuration}
  {context : Buffer.Context}

/-- Where the candidates for a context come from. -/
inductive Offers
    (store : Store)
    (configuration : Configuration)
    (context : Buffer.Context) : Candidate → Prop
  | package {candidate : Candidate}
      (present : candidate ∈ store.installedPackages) :
      Offers store configuration context candidate
  | function {candidate : Candidate}
      (present : candidate ∈ store.loadedFunctions) :
      Offers store configuration context candidate
  | object {candidate : Candidate}
      (present : candidate ∈ store.sessionObjects) :
      Offers store configuration context candidate
  | rest {start : String} {object candidate : Candidate}
      (needed : configuration.needsSession context = true)
      (lost : start ∈ context.lostStart?)
      (present : object ∈ store.sessionObjects)
      (after : Candidate.RestAfter start object candidate) :
      Offers store configuration context candidate
  | argument {described argument : Candidate} {arguments : List Candidate}
      (present :
        described ∈ store.loadedFunctions ∨
          described ∈ store.sessionObjects)
      (known : arguments ∈ described.arguments)
      (member : argument ∈ arguments) :
      Offers store configuration context argument

/-- Objects are offered without what their labels lose, or else by their start. -/
theorem objectMatches_eq (store : Store) (context : Buffer.Context) :
    store.objectMatches context.word context.pipe =
      context.lostStart?.elim
        (Selection.byStart store.sessionObjects context.word (some "$") false)
        (Selection.byStart store.sessionObjects · none true) := by
  unfold objectMatches Buffer.Context.lostStart?
  cases context.pipe with
  | some source => rfl
  | none =>
      by_cases access : context.isFieldAccess = true
      · have reaches : Text.contains context.word "$" = true := access
        simp only [access, reaches, if_true, Option.elim_some]
      · have bare : ¬Text.contains context.word "$" = true := access
        simp only [if_neg access, if_neg bare, Option.elim_none]

theorem offers_of_mem_wordMatches
    {candidate : Candidate}
    (needed : configuration.needsSession context = true)
    (matched : candidate ∈ store.wordMatches context.word context.pipe) :
    store.Offers configuration context candidate := by
  rw [wordMatches, List.mem_append, objectMatches_eq] at matched
  rcases matched with object | other
  · cases lost : context.lostStart? with
    | some start =>
        rw [lost, Option.elim_some, Selection.mem_byStart_strip_iff
          (Buffer.Context.ne_empty_of_mem_lostStart? lost)] at object
        obtain ⟨stored, present, after⟩ := object
        exact .rest needed lost present after
    | none =>
        rw [lost, Option.elim_none] at object
        exact .object (Selection.mem_of_mem_byStart object)
  · have present := Selection.mem_of_mem_byStart other
    rcases List.mem_append.mp present with loaded | installed
    · exact .function loaded
    · exact .package installed

/-- Every candidate of an answer comes from the store. -/
theorem offers_of_mem_answer
    {candidate : Candidate}
    (offered : candidate ∈ store.answer configuration context) :
    store.Offers configuration context candidate := by
  unfold answer at offered
  cases kind : context.kind with
  | quoted =>
      simp only [kind, List.not_mem_nil] at offered
  | empty =>
      simp only [kind, List.not_mem_nil] at offered
  | word =>
      simp only [kind] at offered
      have needed : configuration.needsSession context = true :=
        (configuration.needsSession_iff context).mpr (.inl kind)
      exact offers_of_mem_wordMatches needed offered
  | call function =>
      simp only [kind] at offered
      cases loader : configuration.isPackageLoader function with
      | true =>
          rw [if_pos loader] at offered
          exact .package offered
      | false =>
          have needed : configuration.needsSession context = true :=
            (configuration.needsSession_iff context).mpr
              (.inr ⟨function, kind, loader⟩)
          rw [if_neg (by rw [loader]; exact Bool.false_ne_true)] at offered
          have parts :
              candidate ∈ store.callArguments function ∨
                candidate ∈ store.wordMatches context.word context.pipe := by
            rw [callMatches_eq] at offered
            split at offered
            · exact List.mem_append.mp offered
            · exact (List.mem_append.mp offered).symm
          rcases parts with argument | matched
          · obtain ⟨described, present, arguments, known, member⟩ :=
              exists_of_mem_callArguments argument
            exact .argument present known member
          · exact offers_of_mem_wordMatches needed matched

/-- What matches the word is offered wherever the session is needed. -/
theorem mem_answer_of_mem_wordMatches
    {candidate : Candidate}
    (needed : configuration.needsSession context = true)
    (matched : candidate ∈ store.wordMatches context.word context.pipe) :
    candidate ∈ store.answer configuration context := by
  rw [configuration.needsSession_iff] at needed
  unfold answer
  rcases needed with word | ⟨function, call, ordinary⟩
  · rw [word]
    exact matched
  · simp only [call, ordinary, Bool.false_eq_true, if_false, callMatches_eq]
    split
    · exact List.mem_append_right _ matched
    · exact List.mem_append_left _ matched

/-- Objects whose labels lose a start are offered with the rest of their label. -/
theorem mem_answer_of_restAfter
    {start : String}
    {object candidate : Candidate}
    (needed : configuration.needsSession context = true)
    (lost : start ∈ context.lostStart?)
    (present : object ∈ store.sessionObjects)
    (after : Candidate.RestAfter start object candidate) :
    candidate ∈ store.answer configuration context := by
  apply mem_answer_of_mem_wordMatches needed
  rw [wordMatches, objectMatches_eq, Option.mem_def.mp lost, Option.elim_some]
  apply List.mem_append_left
  rw [Selection.mem_byStart_strip_iff
    (Buffer.Context.ne_empty_of_mem_lostStart? lost)]
  exact ⟨object, present, after⟩

end Store
end RCompletion
