import RCompletion.Engine
import Mathlib.Data.List.Basic

/-!
# Arguments that are offered

A function is described by the first candidate of its name that knows its
arguments.  In a call the loaded functions come first if they know several
arguments, then the functions of the global environment, and at last what the
loaded functions know.
-/

namespace RCompletion
namespace Selection

/-- The arguments of the first candidate for a function that knows them. -/
def knownArguments?
    (candidates : List Candidate)
    (function : String) : Option (List Candidate) :=
  (candidates.filter (·.label = function)).findSome? (·.arguments)

theorem findSome?_describedArguments?
    (candidates : List Candidate)
    (function : String) :
    candidates.findSome? (describedArguments? function) =
      knownArguments? candidates function := by
  induction candidates with
  | nil => rfl
  | cons candidate candidates inductionHypothesis =>
      rw [knownArguments?] at inductionHypothesis ⊢
      rw [List.findSome?_cons, inductionHypothesis]
      by_cases named : candidate.label = function
      · rw [List.filter_cons_of_pos (by simpa using named),
          List.findSome?_cons, describedArguments?, if_pos named]
      · rw [List.filter_cons_of_neg (by simpa using named),
          describedArguments?, if_neg named]

theorem argumentsOf_eq
    (candidates : List Candidate)
    (function : String) :
    argumentsOf candidates function =
      (knownArguments? candidates function).elim .unknown .known := by
  rw [argumentsOf, findSome?_describedArguments?]
  cases knownArguments? candidates function with
  | none => rfl
  | some arguments => rfl

/-- Known arguments are those of a candidate in the list. -/
theorem exists_of_knownArguments?_eq_some
    {candidates arguments : List Candidate}
    {function : String}
    (known : knownArguments? candidates function = some arguments) :
    ∃ described ∈ candidates, described.arguments = some arguments := by
  obtain ⟨described, named, knows⟩ :=
    List.exists_of_findSome?_eq_some known
  exact ⟨described, List.mem_of_mem_filter named, knows⟩

end Selection

namespace Store

/--
The arguments of a loaded function if they are known and there are several,
otherwise those of a function in the global environment, and otherwise those of
a loaded function again, as far as they are known.
-/
def callArguments (store : Store) (function : String) : List Candidate :=
  let loaded := Selection.knownArguments? store.loadedFunctions function
  let own := Selection.knownArguments? store.sessionObjects function
  ((loaded.filter (2 ≤ ·.length)).or (own.or loaded)).getD []

theorem candidates_argumentsOf (store : Store) (function : String) :
    (store.argumentsOf function).candidates =
      store.callArguments function := by
  simp only [argumentsOf, callArguments, Selection.argumentsOf_eq]
  cases Selection.knownArguments? store.loadedFunctions function with
  | none =>
      cases Selection.knownArguments? store.sessionObjects function with
      | none => rfl
      | some own => rfl
  | some loaded =>
      by_cases several : 2 ≤ loaded.length
      · have many : ¬loaded.length ≤ 1 := by omega
        simp only [Option.elim_some, Selection.Arguments.count, many, if_false,
          Option.filter_some, several, decide_true, if_true, Option.some_or,
          Option.getD_some, Selection.Arguments.candidates]
      · have few : loaded.length ≤ 1 := by omega
        simp only [Option.elim_some, Selection.Arguments.count, few, if_true,
          Option.filter_some, several, decide_false, Bool.false_eq_true,
          if_false, Option.none_or]
        cases Selection.knownArguments? store.sessionObjects function with
        | none => rfl
        | some own => rfl

/-- Arguments come before what matches the word, and after it in a pipe chain. -/
theorem callMatches_eq
    (store : Store)
    (function word : String)
    (pipe : Option String) :
    store.callMatches function word pipe =
      if pipe = none then
        store.callArguments function ++ store.wordMatches word pipe
      else
        store.wordMatches word pipe ++ store.callArguments function := by
  rw [callMatches, candidates_argumentsOf]
  cases pipe with
  | none => rfl
  | some source => rfl

/-- Arguments in a call are those of a loaded function or of an object. -/
theorem exists_of_mem_callArguments
    {store : Store}
    {function : String}
    {argument : Candidate}
    (offered : argument ∈ store.callArguments function) :
    ∃ described,
      (described ∈ store.loadedFunctions ∨
        described ∈ store.sessionObjects) ∧
      ∃ arguments ∈ described.arguments, argument ∈ arguments := by
  unfold callArguments at offered
  cases chosen :
      ((Selection.knownArguments? store.loadedFunctions function).filter
        (2 ≤ ·.length)).or
        ((Selection.knownArguments? store.sessionObjects function).or
          (Selection.knownArguments? store.loadedFunctions function)) with
  | none =>
      simp only [chosen, Option.getD_none, List.not_mem_nil] at offered
  | some arguments =>
      simp only [chosen, Option.getD_some] at offered
      have known :
          Selection.knownArguments? store.loadedFunctions function =
              some arguments ∨
            Selection.knownArguments? store.sessionObjects function =
              some arguments := by
        rw [Option.or_eq_some_iff, Option.or_eq_some_iff,
          Option.filter_eq_some_iff] at chosen
        rcases chosen with ⟨loaded, -⟩ | ⟨-, own | ⟨-, loaded⟩⟩
        · exact .inl loaded
        · exact .inr own
        · exact .inl loaded
      rcases known with loaded | own
      · obtain ⟨described, present, knows⟩ :=
          Selection.exists_of_knownArguments?_eq_some loaded
        exact ⟨described, .inl present, arguments, knows, offered⟩
      · obtain ⟨described, present, knows⟩ :=
          Selection.exists_of_knownArguments?_eq_some own
        exact ⟨described, .inr present, arguments, knows, offered⟩

end Store
end RCompletion
