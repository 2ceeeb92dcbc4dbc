import RCompletion.Proofs.Engine.Refresh

/-!
# Answers

A completion request is answered in two steps: the store is refreshed if the
context needs the session, and the candidates are then read off the store.  The
second step looks at three of the collections only, so that two stores which
agree on these answer every context alike.
-/

namespace RCompletion

/-- Whether what the session wrote is looked at for a context. -/
def Configuration.needsSession
    (configuration : Configuration)
    (context : Buffer.Context) : Bool :=
  match context.kind with
  | .quoted => false
  | .empty => false
  | .call function => !configuration.isPackageLoader function
  | .word => true

/-- The session is needed for words, and for calls that load no package. -/
theorem Configuration.needsSession_iff
    (configuration : Configuration)
    (context : Buffer.Context) :
    configuration.needsSession context = true ↔
      context.kind = .word ∨
        ∃ function, context.kind = .call function ∧
          configuration.isPackageLoader function = false := by
  unfold needsSession
  cases context.kind with
  | quoted => simp
  | call function => simp
  | word => simp
  | empty => simp

namespace Store

/-- The candidates that a store holds for a context. -/
def answer
    (store : Store)
    (configuration : Configuration)
    (context : Buffer.Context) : List Candidate :=
  match context.kind with
  | .quoted => []
  | .empty => []
  | .call function =>
      if configuration.isPackageLoader function then
        store.installedPackages
      else
        store.callMatches function context.word context.pipe
  | .word => store.wordMatches context.word context.pipe

/-- Two stores agree on the collections that answers are read off. -/
structure Alike (left right : Store) : Prop where
  /-- The same installed packages. -/
  installedPackages : left.installedPackages = right.installedPackages
  /-- The same loaded functions. -/
  loadedFunctions : left.loadedFunctions = right.loadedFunctions
  /-- The same objects. -/
  sessionObjects : left.sessionObjects = right.sessionObjects

/-- Stores that agree match a word with the same candidates. -/
theorem Alike.wordMatches
    {left right : Store}
    (alike : left.Alike right)
    (word : String)
    (pipe : Option String) :
    left.wordMatches word pipe = right.wordMatches word pipe := by
  unfold Store.wordMatches objectMatches functionMatches
  rw [alike.installedPackages, alike.loadedFunctions, alike.sessionObjects]

/-- Stores that agree complete a call with the same candidates. -/
theorem Alike.callMatches
    {left right : Store}
    (alike : left.Alike right)
    (function word : String)
    (pipe : Option String) :
    left.callMatches function word pipe =
      right.callMatches function word pipe := by
  have arguments : left.argumentsOf function = right.argumentsOf function := by
    unfold Store.argumentsOf
    rw [alike.loadedFunctions, alike.sessionObjects]
  unfold Store.callMatches
  rw [arguments, alike.wordMatches]

/-- Stores that agree give the same answers. -/
theorem Alike.answer
    {left right : Store}
    (alike : left.Alike right)
    (configuration : Configuration)
    (context : Buffer.Context) :
    left.answer configuration context = right.answer configuration context := by
  unfold Store.answer
  cases context.kind with
  | quoted => rfl
  | empty => rfl
  | call function =>
      simp only [alike.installedPackages, alike.callMatches]
  | word => exact alike.wordMatches _ _

/-- Without the session, an answer is read off the installed packages alone. -/
theorem answer_eq_of_not_needsSession
    {left right : Store}
    {configuration : Configuration}
    {context : Buffer.Context}
    (installed : left.installedPackages = right.installedPackages)
    (alone : configuration.needsSession context = false) :
    left.answer configuration context =
      right.answer configuration context := by
  unfold Configuration.needsSession at alone
  unfold Store.answer
  cases kind : context.kind with
  | quoted => rfl
  | empty => rfl
  | call function =>
      have loader : configuration.isPackageLoader function = true := by
        simpa [kind] using alone
      simp only [loader, if_true]
      exact installed
  | word => simp [kind] at alone

end Store

namespace Engine

variable {σ : Type} [Session σ]

/-- The engine that a context is answered from. -/
def answering
    (engine : Engine σ)
    (disk : Disk)
    (context : Buffer.Context) : Engine σ :=
  if engine.configuration.needsSession context then
    (engine.refresh disk).value
  else
    engine

/-- The candidates for a context are read off the store that it is answered from. -/
theorem value_candidatesFor
    (engine : Engine σ)
    (disk : Disk)
    (context : Buffer.Context) :
    (engine.candidatesFor disk context).value =
      (engine.answering disk context,
        (engine.answering disk context).store.answer engine.configuration
          context) := by
  unfold candidatesFor answering Configuration.needsSession Store.answer
  cases context.kind with
  | quoted => rfl
  | empty => rfl
  | call function =>
      cases loader : engine.configuration.isPackageLoader function with
      | true => simp [loader]
      | false => simp [loader]
  | word => rfl

/-- A request is answered at the insertion column of its context. -/
theorem value_complete
    (engine : Engine σ)
    (disk : Disk)
    (rows : List String)
    (cursor : Buffer.Cursor) :
    let context := engine.detect rows cursor
    let answering := engine.answering disk context
    (engine.complete disk rows cursor).value =
      (answering,
        ⟨context.startColumn,
          answering.store.answer engine.configuration context⟩) := by
  simp only [complete, Logged.value_bind, Logged.value_pure,
    value_candidatesFor]

theorem startColumn_complete
    (engine : Engine σ)
    (disk : Disk)
    (rows : List String)
    (cursor : Buffer.Cursor) :
    (engine.complete disk rows cursor).value.2.startColumn =
      (engine.detect rows cursor).startColumn := by
  rw [value_complete]

/-- What a context is answered from differs from the engine by a run of reports. -/
theorem store_answering
    (engine : Engine σ)
    (disk : Disk)
    (context : Buffer.Context) :
    ∃ reports,
      (engine.answering disk context).store =
        engine.store.receiveAll reports := by
  unfold answering
  split
  · exact engine.store_refresh disk
  · exact ⟨[], rfl⟩

@[simp] theorem configuration_answering
    (engine : Engine σ)
    (disk : Disk)
    (context : Buffer.Context) :
    (engine.answering disk context).configuration =
      engine.configuration := by
  unfold answering
  split
  · rw [configuration_refresh]
  · rfl

@[simp] theorem detector_answering
    (engine : Engine σ)
    (disk : Disk)
    (context : Buffer.Context) :
    (engine.answering disk context).detector = engine.detector := by
  unfold answering
  split
  · rw [detector_refresh]
  · rfl

/--
Two engines that detect and refuse alike give the same response when they have
the same installed packages and agree after a refresh.
-/
theorem response_eq_of_alike {τ : Type} [Session τ]
    {left : Engine σ}
    {right : Engine τ}
    {leftDisk rightDisk : Disk}
    (configuration : left.configuration = right.configuration)
    (detector : left.detector = right.detector)
    (installed :
      left.store.installedPackages = right.store.installedPackages)
    (refreshed :
      (left.refresh leftDisk).value.store.Alike
        (right.refresh rightDisk).value.store)
    (rows : List String)
    (cursor : Buffer.Cursor) :
    (left.complete leftDisk rows cursor).value.2 =
      (right.complete rightDisk rows cursor).value.2 := by
  have context : left.detect rows cursor = right.detect rows cursor := by
    unfold detect
    rw [detector]
  have candidates :
      (left.answering leftDisk (right.detect rows cursor)).store.answer
          right.configuration (right.detect rows cursor) =
        (right.answering rightDisk (right.detect rows cursor)).store.answer
          right.configuration (right.detect rows cursor) := by
    unfold answering
    rw [configuration]
    cases needed :
        right.configuration.needsSession (right.detect rows cursor) with
    | true => exact refreshed.answer _ _
    | false => exact Store.answer_eq_of_not_needsSession installed needed
  simp only [value_complete, context, configuration, candidates]

end Engine
end RCompletion
