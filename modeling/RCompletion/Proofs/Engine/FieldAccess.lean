import RCompletion.Proofs.Buffer.Field
import RCompletion.Proofs.Engine.Offered
import RCompletion.Proofs.Engine.Run

/-!
# Fields of objects

A word with `$` is completed with the objects whose names start with it, and
these are offered without as many characters as the whole word has.  What is
replaced is the field alone.  Accepting such a candidate therefore spells the
name of its object exactly when nothing of the field was typed; otherwise the
typed part of the field is lost.
-/

namespace RCompletion

namespace Text

/-- Nothing is lost by leaving out a part exactly when that part is empty. -/
theorem append_append_eq_iff (before path field rest : String) :
    before ++ path ++ rest = before ++ (path ++ field ++ rest) ↔
      field = "" := by
  constructor
  · intro same
    have lengths := congrArg String.length same
    simp only [String.length_append] at lengths
    rw [← String.length_eq_zero_iff]
    omega
  · intro nothing
    rw [nothing, String.append_empty, String.append_assoc]

end Text

/-- The row of the cursor up to the insertion column, followed by a candidate. -/
def Response.accepted
    (response : Response)
    (rows : List String)
    (cursor : Buffer.Cursor)
    (candidate : Candidate) : String :=
  Buffer.beforeColumn (rows[cursor.line]?.getD "") response.startColumn ++
    candidate.label

namespace Buffer

/-- A word that reaches into an object, with nothing else around to complete. -/
structure Context.ReachesField
    (context : Context)
    (configuration : Configuration) : Prop where
  /-- The word is not in quotation marks. -/
  unquoted : context.inQuotes = false
  /-- No value flows through a pipe. -/
  unpiped : context.pipe = none
  /-- No package is about to be loaded. -/
  unloading : ∀ function ∈ context.function,
    configuration.isPackageLoader function = false
  /-- The word reaches into an object. -/
  access : context.isFieldAccess = true

/-- A word that reaches into an object is not empty. -/
theorem Context.ReachesField.word_ne_empty
    {context : Context}
    {configuration : Configuration}
    (reaches : context.ReachesField configuration) :
    context.word ≠ "" := by
  intro nothing
  have access := reaches.access
  rw [isFieldAccess, nothing] at access
  exact absurd access (by decide)

/-- A word that reaches into an object is completed alone or in a call. -/
theorem Context.ReachesField.kind
    {context : Context}
    {configuration : Configuration}
    (reaches : context.ReachesField configuration) :
    context.kind = .word ∨
      ∃ function, context.kind = .call function ∧
        configuration.isPackageLoader function = false := by
  unfold Context.kind
  rw [if_neg (by rw [reaches.unquoted]; exact Bool.false_ne_true)]
  cases called : context.function with
  | none =>
      left
      exact if_neg fun empty => reaches.word_ne_empty empty.1
  | some function =>
      right
      exact ⟨function, rfl, reaches.unloading function called⟩

end Buffer

namespace Store

/-- The objects that a word with `$` reaches are offered without the word. -/
theorem stripped_mem_answer
    {store : Store}
    {configuration : Configuration}
    {context : Buffer.Context}
    {object : Candidate}
    (reaches : context.ReachesField configuration)
    (known : object ∈ store.sessionObjects)
    (starts : Text.startsWith object.label context.word = true) :
    Selection.stripped context.word object ∈
      store.answer configuration context := by
  have needed : configuration.needsSession context = true :=
    (configuration.needsSession_iff context).mpr reaches.kind
  have lost : context.word ∈ context.lostStart? := by
    rw [Buffer.Context.lostStart?, reaches.unpiped]
    exact if_pos reaches.access
  rw [Text.startsWith_iff] at starts
  exact mem_answer_of_restAfter needed lost known
    (Selection.restAfter_stripped starts)

end Store

namespace Engine

variable {σ : Type} [Session σ]

/--
With the default pattern, accepting the rest of a name keeps the path to the
field and drops the typed part of the field.
-/
theorem accepted_stripped
    {engine : Engine σ}
    (byDefault : engine.MatchesByDefault)
    (disk : Disk)
    (rows : List String)
    (cursor : Buffer.Cursor)
    (object : Candidate) :
    (engine.complete disk rows cursor).value.2.accepted rows cursor
        (Selection.stripped (engine.detect rows cursor).word object) =
      Buffer.beforeWord (Buffer.typed rows cursor) ++
        Buffer.typedPath (Buffer.typed rows cursor) ++
          Text.dropLength object.label (engine.detect rows cursor).word := by
  obtain ⟨proper, pattern⟩ := byDefault
  have column :
      (engine.complete disk rows cursor).value.2.startColumn =
        engine.detector.startColumn (Buffer.typed rows cursor)
          cursor.column := by
    rw [value_complete]
    rfl
  rw [Response.accepted, column, Buffer.Detector.beforeColumn_startColumn
    (Buffer.Detector.wordPattern_of_ofConfiguration proper pattern)]
  rfl

/--
Let a word with `$` be completed outside quotes, pipes and package loaders.
Every object whose name starts with the word is offered, and accepting it
spells its name exactly when the word ends with `$`.
-/
theorem accepted_eq_iff_of_reachesField
    {engine : Engine σ}
    (byDefault : engine.MatchesByDefault)
    {rows : List String}
    {cursor : Buffer.Cursor}
    (reaches :
      (engine.detect rows cursor).ReachesField engine.configuration)
    (disk : Disk)
    {object : Candidate}
    (known :
      object ∈ (engine.complete disk rows cursor).value.1.store.sessionObjects)
    (starts :
      Text.startsWith object.label (engine.detect rows cursor).word = true) :
    let word := (engine.detect rows cursor).word
    let response := (engine.complete disk rows cursor).value.2
    Selection.stripped word object ∈ response.candidates ∧
      (response.accepted rows cursor (Selection.stripped word object) =
          Buffer.beforeWord (Buffer.typed rows cursor) ++ object.label ↔
        word.toList.getLast? = some '$') := by
  intro word response
  let typed := Buffer.typed rows cursor
  refine ⟨?_, ?_⟩
  · have answered := value_complete engine disk rows cursor
    rw [answered] at known
    have offered := Store.stripped_mem_answer reaches known starts
    rw [show response = _ from congrArg Prod.snd answered]
    exact offered
  · have name :
        object.label =
          Buffer.typedPath typed ++ Buffer.typedField typed ++
            Text.dropLength object.label word := by
      rw [Buffer.typedPath_append_typedField]
      exact (Text.append_dropLength starts).symm
    calc
      response.accepted rows cursor (Selection.stripped word object) =
            Buffer.beforeWord typed ++ object.label ↔
          Buffer.beforeWord typed ++ Buffer.typedPath typed ++
              Text.dropLength object.label word =
            Buffer.beforeWord typed ++ object.label := by
        rw [accepted_stripped byDefault]
      _ ↔ Buffer.typedField typed = "" := by
        nth_rewrite 2 [name]
        exact Text.append_append_eq_iff _ _ _ _
      _ ↔ word.toList.getLast? = some '$' :=
        Buffer.typedField_eq_empty_iff reaches.access

/-- A session that serves a table with one column. -/
def tableSession : Session.Rehearsed where
  files := [
    (({} : Configuration).paths.objectListingFile,
      ["df\x06data.frame", "df$col\x06numeric"]),
    (({} : Configuration).paths.loadedPackagesFile, ["base"])]

/-- An engine for that session. -/
def tableEngine : Engine Session.Rehearsed where
  configuration := {}
  detector := (Buffer.Detector.ofConfiguration {}).toOption.get rfl
  store := .empty
  session := tableSession

/-- The engine for the table matches with the default pattern. -/
theorem matchesByDefault_tableEngine : tableEngine.MatchesByDefault :=
  ⟨rfl, rfl⟩

/-- After `df$` the column is offered, and accepting it spells its name. -/
theorem accepted_after_dollar :
    let rows := ["df$"]
    let cursor : Buffer.Cursor := ⟨0, 3⟩
    let completed := (tableEngine.complete .empty rows cursor).value
    ∃ object ∈ completed.1.store.sessionObjects,
      object.label = "df$col" ∧
        Selection.stripped "df$" object ∈ completed.2.candidates ∧
          completed.2.accepted rows cursor (Selection.stripped "df$" object) =
            "df$col" := by
  have reaches :
      (tableEngine.detect ["df$"] ⟨0, 3⟩).ReachesField
        tableEngine.configuration :=
    ⟨rfl, rfl, fun _ called => (nomatch called), rfl⟩
  obtain ⟨offered, spelled⟩ :=
    accepted_eq_iff_of_reachesField matchesByDefault_tableEngine reaches .empty
      (.tail _ (.head _)) rfl
  exact ⟨_, .tail _ (.head _), rfl, offered, spelled.mpr rfl⟩

/-- After `df$co` the column is offered too, but accepting it spells `df$l`. -/
theorem not_forall_accepted_eq :
    ¬ ∀ (engine : Engine Session.Rehearsed) (disk : Disk)
        (rows : List String) (cursor : Buffer.Cursor),
      engine.MatchesByDefault →
      engine.configuration.pipeOperators =
        ({} : Configuration).pipeOperators →
      (engine.detect rows cursor).ReachesField engine.configuration →
      let word := (engine.detect rows cursor).word
      let completed := (engine.complete disk rows cursor).value
      ∀ object ∈ completed.1.store.sessionObjects,
        Text.startsWith object.label word = true →
        Selection.stripped word object ∈ completed.2.candidates →
        completed.2.accepted rows cursor (Selection.stripped word object) =
          Buffer.beforeWord (Buffer.typed rows cursor) ++ object.label := by
  intro claimed
  have reaches :
      (tableEngine.detect ["df$co"] ⟨0, 5⟩).ReachesField
        tableEngine.configuration :=
    ⟨rfl, rfl, fun _ called => (nomatch called), rfl⟩
  have spelled : "df$l" = "df$col" :=
    claimed tableEngine .empty ["df$co"] ⟨0, 5⟩ matchesByDefault_tableEngine
      rfl reaches _ (.tail _ (.head _)) rfl (.head _)
  exact absurd spelled (by decide)

end Engine
end RCompletion
