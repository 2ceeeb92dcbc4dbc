import RCompletion.Proofs.Buffer.RowEnd
import RCompletion.Proofs.Engine.Arguments
import RCompletion.Proofs.Engine.Blocks
import RCompletion.Proofs.Engine.Unchanged

/-!
# Typing and answers

How answers at the ends of two rows are related.  When a word goes on, the
answer is narrowed to the candidates that go on with it.  When a call is opened
before a word, the arguments of the function join what the word alone is
answered with.
-/

namespace RCompletion
namespace Buffer

/-- A word without `$` is completed, with nothing else around it. -/
structure Context.IsPlainWord (context : Context) : Prop where
  unquoted : context.inQuotes = false
  uncalled : context.function = none
  unpiped : context.pipe = none
  typed : context.word ≠ ""
  bare : context.isFieldAccess = false

/-- A plain word stays plain as it goes on with characters of a field. -/
theorem Context.IsPlainWord.append
    {context : Context}
    {further : String}
    (plain : context.IsPlainWord)
    (parts : ∀ character ∈ further.toList, isFieldPart character = true) :
    ({ context with word := context.word ++ further } : Context).IsPlainWord where
  unquoted := plain.unquoted
  uncalled := plain.uncalled
  unpiped := plain.unpiped
  typed := by
    intro nothing
    rw [String.append_eq_empty_iff] at nothing
    exact plain.typed nothing.1
  bare := by
    have bare := plain.bare
    rw [isFieldAccess, ← Bool.not_eq_true, Text.contains_dollar_iff]
      at bare ⊢
    rw [String.toList_append, List.mem_append]
    rintro (inWord | inFurther)
    · exact bare inWord
    · exact absurd (parts '$' inFurther) (by decide)

end Buffer

namespace Store

/-- Without a word nothing matches. -/
@[simp] theorem wordMatches_empty (store : Store) :
    store.wordMatches "" none = [] := by
  have bare : ¬Text.contains "" "$" = true := by decide
  rw [wordMatches, objectMatches, if_neg bare, functionMatches,
    Selection.byStart_empty, Selection.byStart_empty, List.append_nil]

/-- What a plain word matches as it goes on is selected from what it matched. -/
theorem wordMatches_append
    (store : Store)
    {word further : String}
    (typed : word ≠ "")
    (bare : Text.contains word "$" = false)
    (longerBare : Text.contains (word ++ further) "$" = false) :
    store.wordMatches (word ++ further) none =
      Selection.byStart (store.wordMatches word none) (word ++ further) none
        false := by
  simp only [wordMatches, objectMatches, functionMatches, bare, longerBare,
    Bool.false_eq_true, if_false]
  rw [Selection.byStart_append
      (Selection.byStart store.sessionObjects word (some "$") false),
    Selection.byStart_byStart typed, Selection.byStart_byStart typed]

end Store

namespace Engine

theorem DetectsByDefault.wordPattern
    {σ : Type}
    {engine : Engine σ}
    (byDefault : engine.DetectsByDefault) :
    engine.detector.wordPattern =
      (Pattern.oneOrMore Buffer.fieldCharacters).beforeEnd :=
  Buffer.Detector.wordPattern_of_ofConfiguration
    byDefault.matchesByDefault.1 byDefault.matchesByDefault.2

theorem DetectsByDefault.apart
    {σ : Type}
    {engine : Engine σ}
    (byDefault : engine.DetectsByDefault) :
    engine.detector.operators.Apart := by
  obtain ⟨listed, -, -⟩ := Buffer.Detector.of_ofConfiguration_eq_ok
    byDefault.matchesByDefault.1
  apply Buffer.PipeOperators.apart_of_default
  rw [Buffer.PipeOperators.symbols_of_ofList? listed, byDefault.operators]

variable {σ : Type} [Session σ]

/-- Outside quotes and calls the refreshed store is searched for the word. -/
theorem candidates_complete_of_uncalled
    {engine : Engine σ}
    {rows : List String}
    {cursor : Buffer.Cursor}
    (unquoted : (engine.detect rows cursor).inQuotes = false)
    (uncalled : (engine.detect rows cursor).function = none)
    (disk : Disk) :
    (engine.complete disk rows cursor).value.2.candidates =
      (engine.refresh disk).value.store.wordMatches
        (engine.detect rows cursor).word (engine.detect rows cursor).pipe := by
  -- without a word and a chain nothing is looked up, and nothing would be found
  by_cases nothing :
      (engine.detect rows cursor).word = "" ∧
        (engine.detect rows cursor).pipe = none
  · have empty : (engine.detect rows cursor).kind = .empty := by
      simp only [Buffer.Context.kind, unquoted, uncalled, nothing,
        Bool.false_eq_true, if_false, and_self, if_true]
    rw [value_complete, nothing.1, nothing.2, Store.wordMatches_empty]
    simp only [Store.answer, empty]
  · have completesWord : (engine.detect rows cursor).kind = .word :=
      (Buffer.Context.kind_eq_word_iff _).mpr ⟨unquoted, uncalled, nothing⟩
    rw [value_complete_of_kind_eq_word completesWord]

/-- In an ordinary call the refreshed store is asked for arguments, too. -/
theorem candidates_complete_of_called
    {engine : Engine σ}
    {rows : List String}
    {cursor : Buffer.Cursor}
    {function : String}
    (unquoted : (engine.detect rows cursor).inQuotes = false)
    (called : (engine.detect rows cursor).function = some function)
    (ordinary : engine.configuration.isPackageLoader function = false)
    (disk : Disk) :
    (engine.complete disk rows cursor).value.2.candidates =
      (engine.refresh disk).value.store.callMatches function
        (engine.detect rows cursor).word (engine.detect rows cursor).pipe := by
  have inCall : (engine.detect rows cursor).kind = .call function := by
    simp only [Buffer.Context.kind, unquoted, called, Bool.false_eq_true,
      if_false]
  have needed :
      engine.configuration.needsSession (engine.detect rows cursor) =
        true :=
    (Configuration.needsSession_iff _ _).mpr (.inr ⟨function, inCall, ordinary⟩)
  rw [value_complete]
  simp only [answering, needed, if_true, Store.answer, inCall, ordinary,
    Bool.false_eq_true, if_false]

/-! ## Going on with a word -/

/--
Let a plain word stand before the cursor at the end of a row, and let the row
go on with characters of a field.  With the default pattern and operators, and
files that do not change in between, the answer keeps its insertion column, and
of its candidates those that go on with the word, in their order.
-/
theorem candidates_typedOn [Session.Steady σ]
    {engine : Engine σ}
    (byDefault : engine.DetectsByDefault)
    {above below : List String}
    {row further : String}
    (plain :
      (engine.detect (above ++ row :: below) (.atEnd above row)).IsPlainWord)
    (parts :
      ∀ character ∈ further.toList, Buffer.isFieldPart character = true)
    {disk : Disk}
    {calls : List (Call σ)}
    (undisturbed : ∀ next ∈ calls, next.Undisturbed engine.session disk) :
    let longer := row ++ further
    let word :=
      (engine.detect (above ++ row :: below) (.atEnd above row)).word
    let response :=
      (engine.complete disk (above ++ row :: below) (.atEnd above row)).value.2
    let narrowed :=
      ((engine.callAll calls).complete disk (above ++ longer :: below)
        (.atEnd above longer)).value.2
    narrowed.startColumn = response.startColumn ∧
      narrowed.candidates =
        Selection.byStart response.candidates (word ++ further) none false ∧
      narrowed.candidates =
        response.candidates.filter
          ((word ++ further).toList <+: ·.label.toList) := by
  intro longer word response narrowed
  have nonempty : row ≠ "" := by
    rintro rfl
    exact plain.typed (by rw [detect, Buffer.Detector.detect_atEnd]; rfl)
  have detected :
      (engine.callAll calls).detect (above ++ longer :: below)
          (.atEnd above longer) =
        { engine.detect (above ++ row :: below) (.atEnd above row) with
          word := word ++ further } := by
    rw [detect, (engine.callAll_keeps calls).2]
    exact Buffer.Detector.detect_typedOn byDefault.wordPattern byDefault.apart
      nonempty parts above below
  have longerPlain := plain.append parts
  have before :
      response.candidates =
        (engine.refresh disk).value.store.wordMatches word none := by
    have found :=
      candidates_complete_of_uncalled plain.unquoted plain.uncalled disk
    rw [plain.unpiped] at found
    exact found
  have after :
      narrowed.candidates =
        (engine.refresh disk).value.store.wordMatches (word ++ further)
          none := by
    have found :
        narrowed.candidates =
          ((engine.callAll calls).refresh disk).value.store.wordMatches
            ((engine.callAll calls).detect (above ++ longer :: below)
              (.atEnd above longer)).word
            ((engine.callAll calls).detect (above ++ longer :: below)
              (.atEnd above longer)).pipe :=
      candidates_complete_of_uncalled
        (by rw [detected]; exact longerPlain.unquoted)
        (by rw [detected]; exact longerPlain.uncalled) disk
    rw [found, detected, longerPlain.unpiped,
      store_refresh_callAll undisturbed]
  have selected :
      narrowed.candidates =
        Selection.byStart response.candidates (word ++ further) none
          false := by
    rw [after, before]
    exact Store.wordMatches_append _ plain.typed plain.bare longerPlain.bare
  refine ⟨?_, selected, ?_⟩
  · calc narrowed.startColumn
        = ((engine.callAll calls).detect (above ++ longer :: below)
            (.atEnd above longer)).startColumn := startColumn_complete ..
      _ = (engine.detect (above ++ row :: below)
            (.atEnd above row)).startColumn := by rw [detected]
      _ = response.startColumn := (startColumn_complete ..).symm
  · have typed : word ++ further ≠ "" := longerPlain.typed
    rw [selected, Selection.byStart_eq_filter typed, Selection.qualifies_none]

theorem detectsByDefault_chainEngine : chainEngine.DetectsByDefault where
  matchesByDefault := ⟨rfl, rfl⟩
  operators := rfl

/-- Going on from `c` to `cor` leaves the function, also after both requests. -/
theorem candidates_typedOn_cor :
    let calls : List (Call Session.Rehearsed) :=
      [.complete .empty ["x <- c"] ⟨0, 6⟩, .complete .empty ["x <- cor"] ⟨0, 8⟩]
    let response := (chainEngine.complete .empty ["x <- c"] ⟨0, 6⟩).value.2
    let narrowed :=
      ((chainEngine.callAll calls).complete .empty ["x <- cor"] ⟨0, 8⟩).value.2
    (chainEngine.detect ["x <- c"] ⟨0, 6⟩).IsPlainWord ∧
      (∀ next ∈ calls, next.Undisturbed chainEngine.session .empty) ∧
      narrowed.startColumn = response.startColumn ∧
      narrowed.candidates =
        Selection.byStart response.candidates "cor" none false ∧
      response.candidates.map (·.label) = ["co", "cor", "compiler"] ∧
      narrowed.candidates.map (·.label) = ["cor"] := by
  intro calls response narrowed
  have plain :
      (chainEngine.detect ([] ++ "x <- c" :: [])
        (.atEnd [] "x <- c")).IsPlainWord :=
    ⟨rfl, rfl, rfl, by decide, rfl⟩
  have parts :
      ∀ character ∈ "or".toList, Buffer.isFieldPart character = true :=
    List.all_eq_true.mp rfl
  have undisturbed :
      ∀ next ∈ calls, next.Undisturbed chainEngine.session .empty := by
    simp [calls, Call.Undisturbed]
  obtain ⟨column, selected, -⟩ :=
    candidates_typedOn detectsByDefault_chainEngine plain parts undisturbed
  exact ⟨plain, undisturbed, column, selected, rfl, by decide⟩

/-! ## Opening a call -/

/--
Let a word stand alone on a row, and let the call of a function that loads no
package be opened before it.  With the default pattern and operators the
insertion column moves by what stands before the word, and the arguments of the
function are offered before what the word alone is answered with, or after it
in a pipe chain.
-/
theorem candidates_opened
    {engine : Engine σ}
    (byDefault : engine.DetectsByDefault)
    {function word : String}
    (named : function ≠ "")
    (callee :
      ∀ character ∈ function.toList, Buffer.isCalleePart character = true)
    (ordinary : engine.configuration.isPackageLoader function = false)
    (parts : ∀ character ∈ word.toList, Buffer.isNamePart character = true)
    (disk : Disk)
    (above below : List String) :
    let row := function ++ "(" ++ word
    let pipe := (engine.detect (above ++ row :: below) (.atEnd above row)).pipe
    let arguments := (engine.refresh disk).value.store.callArguments function
    let alone :=
      (engine.complete disk (above ++ word :: below)
        (.atEnd above word)).value.2
    let opened :=
      (engine.complete disk (above ++ row :: below) (.atEnd above row)).value.2
    opened.startColumn = alone.startColumn + function.length + 1 ∧
      opened.candidates =
        if pipe = none then arguments ++ alone.candidates
        else alone.candidates ++ arguments := by
  intro row pipe arguments alone opened
  obtain ⟨-, unquoted, uncalled, detected⟩ :
      let context := engine.detect (above ++ word :: below) (.atEnd above word)
      context.word = word ∧ context.inQuotes = false ∧
        context.function = none ∧
          engine.detect (above ++ row :: below) (.atEnd above row) =
            { context with
              function := some function
              startColumn := context.startColumn + function.length + 1 } :=
    Buffer.Detector.detect_opened byDefault.wordPattern byDefault.apart named
      callee parts above below
  constructor
  · calc opened.startColumn
        = (engine.detect (above ++ row :: below)
            (.atEnd above row)).startColumn := startColumn_complete ..
      _ = (engine.detect (above ++ word :: below)
            (.atEnd above word)).startColumn + function.length + 1 := by
          rw [detected]
      _ = alone.startColumn + function.length + 1 := by
          rw [← startColumn_complete engine disk]
  · have before :
        alone.candidates =
          (engine.refresh disk).value.store.wordMatches
            (engine.detect (above ++ word :: below) (.atEnd above word)).word
            (engine.detect (above ++ word :: below)
              (.atEnd above word)).pipe :=
      candidates_complete_of_uncalled unquoted uncalled disk
    have after :
        opened.candidates =
          (engine.refresh disk).value.store.callMatches function
            (engine.detect (above ++ row :: below) (.atEnd above row)).word
            pipe :=
      candidates_complete_of_called (by simp only [detected, unquoted])
        (by rw [detected]) ordinary disk
    have samePipe :
        pipe =
          (engine.detect (above ++ word :: below)
            (.atEnd above word)).pipe := by
      simp only [pipe, detected]
    rw [after, Store.callMatches_eq, samePipe, before, detected]

/-- Opening `cor(` offers its arguments before a bare word and after a piped one. -/
theorem candidates_opened_cor :
    let loose := (chainEngine.complete .empty ["co"] ⟨0, 2⟩).value.2
    let looseOpened := (chainEngine.complete .empty ["cor(co"] ⟨0, 6⟩).value.2
    let piped := (chainEngine.complete .empty ["df |>", "co"] ⟨1, 2⟩).value.2
    let pipedOpened :=
      (chainEngine.complete .empty ["df |>", "cor(co"] ⟨1, 6⟩).value.2
    let arguments :=
      (chainEngine.refresh .empty).value.store.callArguments "cor"
    looseOpened.startColumn = loose.startColumn + 4 ∧
      looseOpened.candidates = arguments ++ loose.candidates ∧
      pipedOpened.startColumn = piped.startColumn + 4 ∧
      pipedOpened.candidates = piped.candidates ++ arguments ∧
      looseOpened.candidates.map (·.label) =
        ["x", "y", "co", "cor", "compiler"] ∧
      pipedOpened.candidates.map (·.label) =
        ["cost", "cost", "day", "cor", "compiler", "x", "y"] := by
  intro loose looseOpened piped pipedOpened arguments
  have callee :
      ∀ character ∈ "cor".toList, Buffer.isCalleePart character = true :=
    List.all_eq_true.mp rfl
  have parts :
      ∀ character ∈ "co".toList, Buffer.isNamePart character = true :=
    List.all_eq_true.mp rfl
  have opened :=
    candidates_opened detectsByDefault_chainEngine (by decide) callee rfl
      parts .empty
  obtain ⟨looseColumn, looseCandidates⟩ := opened [] []
  obtain ⟨pipedColumn, pipedCandidates⟩ := opened ["df |>"] []
  exact ⟨looseColumn, looseCandidates, pipedColumn, pipedCandidates, rfl, rfl⟩

end Engine
end RCompletion
