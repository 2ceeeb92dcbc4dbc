import RCompletion.Proofs.Engine.Blocks
import RCompletion.Proofs.Engine.Unchanged

/-!
# Listings that cannot be read

A request that needs the session can fail at four places: the session may refuse
to write either of the two files, and either of them may be unreadable.  That a
session refuses makes no difference to what is read.  A file that cannot be read
leaves what it would replace as it is, and does not keep the other file from
being taken over.
-/

namespace RCompletion

/-! ## Sessions that refuse -/

namespace Session

/-- A session whose requests have the given outcomes, and otherwise another session. -/
structure WithOutcomes (σ : Type) where
  /-- The other session. -/
  session : σ
  /-- What becomes of a request for objects. -/
  objectsOutcome : Except Failure Unit
  /-- What becomes of a request for lines. -/
  linesOutcome : Except Failure Unit

namespace WithOutcomes

variable {σ : Type}

/-- The reply of the other session, with an outcome of its own. -/
def reply
    (asked : WithOutcomes σ)
    (given : Reply σ)
    (outcome : Except Failure Unit) : Reply (WithOutcomes σ) where
  session := { asked with session := given.session }
  outcome := outcome
  notices := given.notices

instance [Session σ] : Session (WithOutcomes σ) where
  isRunning asked := Session.isRunning asked.session
  start asked :=
    let given := Session.start asked.session
    asked.reply given given.outcome
  requestLines asked expression destination :=
    asked.reply (Session.requestLines asked.session expression destination)
      asked.linesOutcome
  requestObjects asked destination :=
    asked.reply (Session.requestObjects asked.session destination)
      asked.objectsOutcome
  registerForDeletion asked path :=
    { asked with session := Session.registerForDeletion asked.session path }
  readRecords asked := Session.readRecords asked.session

end WithOutcomes
end Session

/-! ## What is taken over -/

namespace Store

/-- What two files make of a store, and whether they load other packages. -/
structure TakesOver
    (before after : Store)
    (objects packages : Except Failure (List String))
    (changed : Bool) : Prop where
  /-- The installed packages stay. -/
  installedPackages : after.installedPackages = before.installedPackages
  /-- Their symbols stay. -/
  packageSymbols : after.packageSymbols = before.packageSymbols
  /-- The objects stay if their listing cannot be read. -/
  objectsKept : ∀ cause, objects = .error cause →
    after.sessionObjects = before.sessionObjects
  /-- They are replaced if it can. -/
  objectsTaken : ∀ lines, objects = .ok lines →
    after.sessionObjects = Listing.candidates lines
  /-- The loaded packages and functions stay if their file cannot be read. -/
  packagesKept : ∀ cause, packages = .error cause →
    after.loadedPackages = before.loadedPackages ∧
      after.loadedFunctions = before.loadedFunctions ∧
        changed = false
  /-- The packages are replaced if it can, and with other packages the functions. -/
  packagesTaken : ∀ lines, packages = .ok lines →
    after.loadedPackages = Engine.namesOf lines ∧
      after.loadedFunctions =
          (if changed then
            functionsOf before.packageSymbols (Engine.namesOf lines)
          else
            before.loadedFunctions) ∧
        changed = before.differsFrom (Engine.namesOf lines)

/-- Whether a store gets other loaded packages from a file. -/
def changedBy (store : Store) (read : Except Failure (List String)) : Bool :=
  match read with
  | .ok lines => store.differsFrom (Engine.namesOf lines)
  | .error _ => false

/-- The packages that are loaded do not depend on the objects. -/
theorem changedBy_takeObjects
    (store : Store)
    (objects packages : Except Failure (List String)) :
    (store.takeObjects objects).changedBy packages =
      store.changedBy packages := by
  cases objects with
  | ok lines => rfl
  | error cause => rfl

theorem takesOver
    (store : Store)
    (objects packages : Except Failure (List String)) :
    store.TakesOver ((store.takeObjects objects).takePackages packages)
      objects packages (store.changedBy packages) where
  installedPackages := by cases objects <;> cases packages <;> rfl
  packageSymbols := by cases objects <;> cases packages <;> rfl
  objectsKept := by
    rintro cause rfl
    cases packages <;> rfl
  objectsTaken := by
    rintro lines rfl
    cases packages <;> rfl
  packagesKept := by
    rintro cause rfl
    cases objects <;> exact ⟨rfl, rfl, rfl⟩
  packagesTaken := by
    rintro lines rfl
    cases objects <;> exact ⟨rfl, rfl, rfl⟩

end Store

namespace Engine

variable {σ : Type} [Session σ]

/-- What is read of the loaded packages once the objects were asked for and read. -/
def packagesReadNext (engine : Engine σ) (disk : Disk) :
    Except Failure (List String) :=
  (engine.refreshSessionObjects disk).value.packagesRead disk

/-- Other packages are loaded only if their file can be read and names others. -/
theorem changed_refreshLoadedPackages (engine : Engine σ) (disk : Disk) :
    (engine.refreshLoadedPackages disk).value.2 =
      engine.store.changedBy (engine.packagesRead disk) := by
  cases read : engine.packagesRead disk with
  | ok lines =>
      rw [packagesRead, sessionAskedForPackages] at read
      simp only [refreshLoadedPackages, readLoadedPackages,
        Logged.value_bind, read]
      rfl
  | error cause =>
      rw [packagesRead, sessionAskedForPackages] at read
      simp only [refreshLoadedPackages, readLoadedPackages,
        Logged.value_bind, read]
      -- the recorded packages are put back, and are no others
      have same :
          ¬engine.store.differsFrom engine.store.loadedPackages = true := by
        rw [Store.differsFrom_iff]
        exact fun differs => differs rfl
      exact Bool.eq_false_of_not_eq_true same

/-- A refresh takes over what is read, each of the files by itself. -/
theorem store_refresh_eq_takePackages (engine : Engine σ) (disk : Disk) :
    (engine.refresh disk).value.store =
      (engine.store.takeObjects (engine.objectsRead disk)).takePackages
        (engine.packagesReadNext disk) := by
  have objects :
      (engine.refreshSessionObjects disk).value.store =
        engine.store.takeObjects (engine.objectsRead disk) := by
    rw [value_refreshSessionObjects]
    rfl
  rw [value_refresh, value_refreshLoadedPackages, packagesReadNext, objects]
  cases (engine.refreshSessionObjects disk).value.packagesRead disk with
  | ok lines => rfl
  | error cause => exact Store.setLoadedPackages_loadedPackages _

/-- A request that needs the session is answered from the refreshed store. -/
theorem value_complete_of_needsSession
    {engine : Engine σ}
    {rows : List String}
    {cursor : Buffer.Cursor}
    (needed :
      engine.configuration.needsSession (engine.detect rows cursor) = true)
    (disk : Disk) :
    let context := engine.detect rows cursor
    let refreshed := (engine.refresh disk).value
    (engine.complete disk rows cursor).value =
      (refreshed,
        ⟨context.startColumn,
          refreshed.store.answer engine.configuration context⟩) := by
  simp only [value_complete, answering, needed, if_true]

/-- The engine with a session whose requests have the given outcomes. -/
def withOutcomes
    (engine : Engine σ)
    (objectsOutcome linesOutcome : Except Failure Unit) :
    Engine (Session.WithOutcomes σ) where
  configuration := engine.configuration
  detector := engine.detector
  store := engine.store
  session := ⟨engine.session, objectsOutcome, linesOutcome⟩

theorem objectsRead_withOutcomes
    (engine : Engine σ)
    (objectsOutcome linesOutcome : Except Failure Unit)
    (disk : Disk) :
    (engine.withOutcomes objectsOutcome linesOutcome).objectsRead disk =
      engine.objectsRead disk := rfl

theorem packagesReadNext_withOutcomes
    (engine : Engine σ)
    (objectsOutcome linesOutcome : Except Failure Unit)
    (disk : Disk) :
    (engine.withOutcomes objectsOutcome linesOutcome).packagesReadNext disk =
      engine.packagesReadNext disk := by
  simp only [packagesReadNext, value_refreshSessionObjects]
  rfl

/-- The outcomes of the two requests do not matter to the refreshed store. -/
theorem store_refresh_withOutcomes
    (engine : Engine σ)
    (objectsOutcome linesOutcome : Except Failure Unit)
    (disk : Disk) :
    ((engine.withOutcomes objectsOutcome linesOutcome).refresh
        disk).value.store =
      (engine.refresh disk).value.store := by
  rw [store_refresh_eq_takePackages, store_refresh_eq_takePackages,
    objectsRead_withOutcomes, packagesReadNext_withOutcomes]
  rfl

/--
A request that needs the session takes over each of the two files that can be
read, and keeps what it has of the other one.  It does so whatever becomes of
its own requests to the session, and answers from the store as it was before
when it can read neither file.
-/
theorem takesOver_complete_of_needsSession
    {engine : Engine σ}
    {rows : List String}
    {cursor : Buffer.Cursor}
    (needed :
      engine.configuration.needsSession (engine.detect rows cursor) = true)
    (disk : Disk) :
    let asked := (engine.refreshSessionObjects disk).value
    let objects := engine.objectsRead disk
    let packages := asked.packagesRead disk
    let context := engine.detect rows cursor
    let completed := (engine.complete disk rows cursor).value
    engine.store.TakesOver completed.1.store objects packages
        (asked.refreshLoadedPackages disk).value.2 ∧
      (∀ objectsOutcome linesOutcome,
        let other := (engine.withOutcomes objectsOutcome linesOutcome).complete
          disk rows cursor
        other.value.1.store = completed.1.store ∧
          other.value.2 = completed.2) ∧
      ∀ objectsCause packagesCause,
        objects = .error objectsCause → packages = .error packagesCause →
          completed.1.store = engine.store ∧
            completed.2 =
              ⟨context.startColumn,
                engine.store.answer engine.configuration context⟩ := by
  intro asked objects packages context completed
  have answered : completed = _ := value_complete_of_needsSession needed disk
  have store :
      completed.1.store =
        (engine.store.takeObjects objects).takePackages packages := by
    rw [answered]
    exact engine.store_refresh_eq_takePackages disk
  have response :
      completed.2 =
        ⟨context.startColumn,
          completed.1.store.answer engine.configuration context⟩ := by
    rw [answered]
  have changed :
      (asked.refreshLoadedPackages disk).value.2 =
        engine.store.changedBy packages := by
    have askedStore :
        asked.store = engine.store.takeObjects objects :=
      congrArg Engine.store (engine.value_refreshSessionObjects disk)
    rw [changed_refreshLoadedPackages, askedStore,
      Store.changedBy_takeObjects]
  refine ⟨?_, ?_, ?_⟩
  · rw [store, changed]
    exact engine.store.takesOver objects packages
  · intro objectsOutcome linesOutcome other
    have otherNeeded :
        (engine.withOutcomes objectsOutcome linesOutcome).configuration.needsSession
          ((engine.withOutcomes objectsOutcome linesOutcome).detect rows cursor) =
            true := needed
    have otherAnswered : other.value = _ :=
      value_complete_of_needsSession otherNeeded disk
    have sameStore : other.value.1.store = completed.1.store := by
      rw [otherAnswered, answered]
      exact engine.store_refresh_withOutcomes objectsOutcome linesOutcome disk
    refine ⟨sameStore, ?_⟩
    rw [response, ← sameStore, otherAnswered]
    rfl
  · intro objectsCause packagesCause noObjects noPackages
    have kept : completed.1.store = engine.store := by
      rw [store, noObjects, noPackages]
      rfl
    exact ⟨kept, by rw [response, kept]⟩

/--
An engine that has seen a session once.  Meanwhile the object listing is gone,
another package is loaded, and the session refuses everything.
-/
def deserted : Engine (Session.WithOutcomes Session.Rehearsed) :=
  let seen := (chainEngine.refresh .empty).value
  let session : Session.Rehearsed := {
    files := [(({} : Configuration).paths.loadedPackagesFile, ["compiler"])] }
  { seen with session := session }.withOutcomes
    (.error .notInstalled) (.error .notInstalled)

/-- The other functions are taken over, although the objects are not. -/
theorem takesOver_deserted :
    let completed := (deserted.complete .empty ["c"] ⟨0, 1⟩).value
    deserted.store.TakesOver completed.1.store
        (.error (.noSuchFile ({} : Configuration).paths.objectListingFile))
        (.ok ["compiler"]) true ∧
      deserted.store.loadedFunctions.map (·.label) = ["cor"] ∧
      completed.2.candidates.map (·.label) = ["co", "cmpfun", "compiler"] := by
  have needed :
      deserted.configuration.needsSession (deserted.detect ["c"] ⟨0, 1⟩) =
        true := rfl
  exact ⟨(takesOver_complete_of_needsSession needed .empty).1, rfl, rfl⟩

end Engine
end RCompletion
