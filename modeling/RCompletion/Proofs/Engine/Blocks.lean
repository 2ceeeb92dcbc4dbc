import RCompletion.Proofs.Candidate.Start
import RCompletion.Proofs.Engine.Run

/-!
# The blocks of an answer

What matches a word is offered in three blocks: objects, loaded functions and
installed packages.  The objects depend on how the word is reached.  In a pipe
chain they are the fields of its source, and for a word with `$` they are the
fields under it, both offered without what stands before the field.  Every
other word is matched by the objects that are no fields.
-/

namespace RCompletion
namespace Store

/-- Three blocks hold what matches a word in a store. -/
structure MatchBlocks
    (store : Store)
    (word : String)
    (pipe : Option String)
    (objects functions packages : List Candidate) : Prop where
  /-- In a pipe chain the objects are the fields of its source. -/
  piped : ∀ source ∈ pipe,
    List.Forall₂ (Candidate.RestAfter (source ++ "$"))
      (store.sessionObjects.filter
        ((source ++ "$").toList <+: ·.label.toList))
      objects
  /-- A word with `$` is matched by the fields under it. -/
  reached : pipe = none → '$' ∈ word.toList →
    List.Forall₂ (Candidate.RestAfter word)
      (store.sessionObjects.filter (word.toList <+: ·.label.toList))
      objects
  /-- Any other word is matched by objects that are no fields. -/
  bare : pipe = none → '$' ∉ word.toList →
    objects = store.sessionObjects.filter fun object =>
      word.toList <+: object.label.toList ∧ '$' ∉ object.label.toList
  /-- Functions match by their start, once there is a word. -/
  functions :
    functions =
      if word = "" then []
      else store.loadedFunctions.filter (word.toList <+: ·.label.toList)
  /-- Packages match by their start, once there is a word. -/
  packages :
    packages =
      if word = "" then []
      else store.installedPackages.filter (word.toList <+: ·.label.toList)

/-- Candidates match by their start, once there is a word. -/
theorem byStart_word (candidates : List Candidate) (word : String) :
    Selection.byStart candidates word none false =
      if word = "" then []
      else candidates.filter (word.toList <+: ·.label.toList) := by
  split
  · rename_i nothing
    rw [nothing, Selection.byStart_empty]
  · rename_i nonempty
    rw [Selection.byStart_eq_filter nonempty, Selection.qualifies_none]

theorem functionMatches_eq (store : Store) (word : String) :
    store.functionMatches word =
      Selection.byStart store.loadedFunctions word none false ++
        Selection.byStart store.installedPackages word none false :=
  Selection.byStart_append _ _ _ _ _

/-- What matches a word is offered in blocks. -/
theorem matchBlocks
    (store : Store)
    {word : String}
    {pipe : Option String}
    (given : ¬(word = "" ∧ pipe = none)) :
    store.MatchBlocks word pipe
      (store.objectMatches word pipe)
      (Selection.byStart store.loadedFunctions word none false)
      (Selection.byStart store.installedPackages word none false) where
  piped := by
    rintro source rfl
    have nonempty : source ++ "$" ≠ "" := by
      intro nothing
      rw [String.append_eq_empty_iff] at nothing
      exact absurd nothing.2 (by decide)
    exact Selection.forall₂_byStart nonempty _
  reached := by
    rintro rfl dollar
    have nonempty : word ≠ "" := fun nothing => given ⟨nothing, rfl⟩
    rw [← Text.contains_dollar_iff] at dollar
    simp only [objectMatches, dollar, if_true]
    exact Selection.forall₂_byStart nonempty _
  bare := by
    rintro rfl plain
    have nonempty : word ≠ "" := fun nothing => given ⟨nothing, rfl⟩
    rw [← Text.contains_dollar_iff] at plain
    rw [objectMatches, if_neg plain, Selection.byStart_eq_filter nonempty,
      Selection.qualifies_dollar]
  functions := byStart_word _ _
  packages := byStart_word _ _

end Store

namespace Engine

variable {σ : Type} [Session σ]

/-- A word is answered from the refreshed store. -/
theorem value_complete_of_kind_eq_word
    {engine : Engine σ}
    {rows : List String}
    {cursor : Buffer.Cursor}
    (completesWord : (engine.detect rows cursor).kind = .word)
    (disk : Disk) :
    let context := engine.detect rows cursor
    let refreshed := (engine.refresh disk).value
    (engine.complete disk rows cursor).value =
      (refreshed,
        ⟨context.startColumn,
          refreshed.store.wordMatches context.word context.pipe⟩) := by
  have needed :
      engine.configuration.needsSession (engine.detect rows cursor) =
        true :=
    (Configuration.needsSession_iff _ _).mpr (.inl completesWord)
  simp only [value_complete, answering, needed, if_true, Store.answer,
    completesWord]

/--
A request that completes a word refreshes the store and changes it in no other
way, so that objects are stored with the names in their listing.  The request
is answered with the matching objects, functions and packages of that store,
each of them in stored order and as often as it is stored.
-/
theorem matchBlocks_of_kind_eq_word
    {engine : Engine σ}
    {rows : List String}
    {cursor : Buffer.Cursor}
    (completesWord : (engine.detect rows cursor).kind = .word)
    (disk : Disk) :
    let context := engine.detect rows cursor
    let completed := (engine.complete disk rows cursor).value
    completed.1.store = (engine.refresh disk).value.store ∧
      (completed.1.store.sessionObjects =
        match engine.objectsRead disk with
        | .ok lines => Listing.candidates lines
        | .error _ => engine.store.sessionObjects) ∧
      ∃ objects functions packages,
        completed.2.candidates = objects ++ functions ++ packages ∧
          completed.1.store.MatchBlocks context.word context.pipe objects
            functions packages := by
  intro context completed
  have answered := value_complete_of_kind_eq_word completesWord disk
  have store : completed.1.store = (engine.refresh disk).value.store :=
    congrArg (·.1.store) answered
  have candidates :
      completed.2.candidates =
        (engine.refresh disk).value.store.wordMatches context.word
          context.pipe :=
    congrArg (·.2.candidates) answered
  obtain ⟨-, -, given⟩ := context.kind_eq_word_iff.mp completesWord
  refine ⟨store, ?_, _, _, _, ?_, completed.1.store.matchBlocks given⟩
  · exact (congrArg Store.sessionObjects store).trans
      (engine.sessionObjects_refresh disk)
  · rw [candidates, Store.wordMatches, Store.functionMatches_eq, store,
      List.append_assoc]

/-- An engine whose session serves a table with columns and a variable. -/
def chainEngine : Engine Session.Rehearsed :=
  let engine := ofSession {
    files := [
      (({} : Configuration).paths.objectListingFile,
        ["df\x06data.frame", "df$cost\x06numeric", "co\x06numeric",
          "df$cost\x06numeric", "df$day\x06Date"]),
      (({} : Configuration).paths.loadedPackagesFile, ["stats"])] }
  (engine.supply
    (.listing "omnils_compiler_4.4.0"
      ["cmpfun\x06function\x06\x06compiler\x06f"])).supply
    (.listing "omnils_stats_4.4.0" ["cor\x06function\x06\x06stats\x06x\ty"])

/-- In the chain of the table, `co` is completed with columns, a function and a package. -/
theorem matchBlocks_in_chain :
    let rows := ["df %>%", "  co"]
    let completed := (chainEngine.complete .empty rows ⟨1, 4⟩).value
    (chainEngine.detect rows ⟨1, 4⟩).kind = .word ∧
      (∃ objects functions packages,
        completed.2.candidates = objects ++ functions ++ packages ∧
          completed.1.store.MatchBlocks "co" (some "df") objects functions
            packages) ∧
      completed.2.candidates.map (·.label) =
        ["cost", "cost", "day", "cor", "compiler"] := by
  have completesWord :
      (chainEngine.detect ["df %>%", "  co"] ⟨1, 4⟩).kind = .word := rfl
  have blocks := (matchBlocks_of_kind_eq_word completesWord .empty).2.2
  exact ⟨completesWord, blocks, rfl⟩

end Engine
end RCompletion
