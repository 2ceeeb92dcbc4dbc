import RCompletion.Engine
import RCompletion.Proofs.Session.Steady
import RCompletion.Proofs.Store.Reports

/-!
# What a refresh takes over

A refresh reads two files after asking the session for them.  What is read of
the objects replaces the objects, what is read of the loaded packages is
recorded without its empty lines, and a file that cannot be read leaves the
store as it is.  Apart from the store and the session nothing changes.
-/

namespace RCompletion
namespace Engine

variable {σ : Type} [Session σ]

/-! ## Reading -/

/-- The session after it was asked for its objects. -/
def sessionAskedForObjects (engine : Engine σ) : σ :=
  (Session.requestObjects engine.session
    engine.configuration.paths.objectListingFile).session

/-- What is read of the objects once the session was asked for them. -/
def objectsRead (engine : Engine σ) (disk : Disk) :
    Except Failure (List String) :=
  Session.readRecords engine.sessionAskedForObjects disk
    engine.configuration.paths.objectListingFile

/-- The session after it was asked for its loaded packages. -/
def sessionAskedForPackages (engine : Engine σ) : σ :=
  let path := engine.configuration.paths.loadedPackagesFile
  (Session.requestLines (Session.registerForDeletion engine.session path)
    loadedPackagesExpression path).session

/-- What is read of the loaded packages once the session was asked for them. -/
def packagesRead (engine : Engine σ) (disk : Disk) :
    Except Failure (List String) :=
  Session.readRecords engine.sessionAskedForPackages disk
    engine.configuration.paths.loadedPackagesFile

/-- The lines of a listing that name something. -/
def namesOf (lines : List String) : List String :=
  lines.filter (· ≠ "")

@[simp] theorem mem_namesOf (lines : List String) (name : String) :
    name ∈ namesOf lines ↔ name ∈ lines ∧ name ≠ "" := by
  simp [namesOf]

/-! ## Taking over -/

/-- The objects are those of the listing, if it can be read. -/
theorem value_refreshSessionObjects (engine : Engine σ) (disk : Disk) :
    (engine.refreshSessionObjects disk).value =
      { engine with
        session := engine.sessionAskedForObjects
        store :=
          match engine.objectsRead disk with
          | .ok lines => engine.store.setSessionObjects lines
          | .error _ => engine.store } := by
  cases read : engine.objectsRead disk with
  | ok lines =>
      rw [objectsRead, sessionAskedForObjects] at read
      simp only [refreshSessionObjects, Logged.value_bind, read]
      rfl
  | error cause =>
      rw [objectsRead, sessionAskedForObjects] at read
      simp only [refreshSessionObjects, Logged.value_bind, read]
      rfl

/-- The loaded packages are those that can be read, or the recorded ones. -/
theorem value_refreshLoadedPackages (engine : Engine σ) (disk : Disk) :
    (engine.refreshLoadedPackages disk).value.1 =
      { engine with
        session := engine.sessionAskedForPackages
        store :=
          engine.store.setLoadedPackages
            (match engine.packagesRead disk with
            | .ok lines => namesOf lines
            | .error _ => engine.store.loadedPackages) } := by
  cases read : engine.packagesRead disk with
  | ok lines =>
      rw [packagesRead, sessionAskedForPackages] at read
      simp only [refreshLoadedPackages, readLoadedPackages,
        Logged.value_bind, read]
      rfl
  | error cause =>
      rw [packagesRead, sessionAskedForPackages] at read
      simp only [refreshLoadedPackages, readLoadedPackages,
        Logged.value_bind, read]
      rfl

/-- A refresh takes over the objects and then the loaded packages. -/
theorem value_refresh (engine : Engine σ) (disk : Disk) :
    (engine.refresh disk).value =
      ((engine.refreshSessionObjects disk).value.refreshLoadedPackages
        disk).value.1 := rfl

/-- A refresh keeps the objects unless it can read their listing. -/
theorem sessionObjects_refresh (engine : Engine σ) (disk : Disk) :
    (engine.refresh disk).value.store.sessionObjects =
      match engine.objectsRead disk with
      | .ok lines => Listing.candidates lines
      | .error _ => engine.store.sessionObjects := by
  rw [value_refresh, value_refreshLoadedPackages,
    Store.sessionObjects_setLoadedPackages, value_refreshSessionObjects]
  cases engine.objectsRead disk with
  | ok lines => rfl
  | error cause => rfl

/-! ## What is left alone -/

@[simp] theorem configuration_refreshSessionObjects
    (engine : Engine σ)
    (disk : Disk) :
    (engine.refreshSessionObjects disk).value.configuration =
      engine.configuration := by
  rw [value_refreshSessionObjects]

@[simp] theorem detector_refreshSessionObjects
    (engine : Engine σ)
    (disk : Disk) :
    (engine.refreshSessionObjects disk).value.detector =
      engine.detector := by
  rw [value_refreshSessionObjects]

@[simp] theorem configuration_refreshLoadedPackages
    (engine : Engine σ)
    (disk : Disk) :
    (engine.refreshLoadedPackages disk).value.1.configuration =
      engine.configuration := by
  rw [value_refreshLoadedPackages]

@[simp] theorem detector_refreshLoadedPackages
    (engine : Engine σ)
    (disk : Disk) :
    (engine.refreshLoadedPackages disk).value.1.detector =
      engine.detector := by
  rw [value_refreshLoadedPackages]

@[simp] theorem configuration_refresh (engine : Engine σ) (disk : Disk) :
    (engine.refresh disk).value.configuration = engine.configuration := by
  rw [value_refresh, configuration_refreshLoadedPackages,
    configuration_refreshSessionObjects]

@[simp] theorem detector_refresh (engine : Engine σ) (disk : Disk) :
    (engine.refresh disk).value.detector = engine.detector := by
  rw [value_refresh, detector_refreshLoadedPackages,
    detector_refreshSessionObjects]

/-! ## Reports -/

/-- Taking over the objects is at most one report to the store. -/
theorem store_refreshSessionObjects (engine : Engine σ) (disk : Disk) :
    ∃ reports,
      (engine.refreshSessionObjects disk).value.store =
        engine.store.receiveAll reports := by
  rw [value_refreshSessionObjects]
  cases engine.objectsRead disk with
  | ok lines => exact ⟨[.objects lines], rfl⟩
  | error cause => exact ⟨[], rfl⟩

/-- Taking over the loaded packages is one report to the store. -/
theorem store_refreshLoadedPackages (engine : Engine σ) (disk : Disk) :
    ∃ reports,
      (engine.refreshLoadedPackages disk).value.1.store =
        engine.store.receiveAll reports := by
  rw [value_refreshLoadedPackages]
  exact ⟨[.packages _], rfl⟩

/-- A refresh is a run of reports to the store. -/
theorem store_refresh (engine : Engine σ) (disk : Disk) :
    ∃ reports,
      (engine.refresh disk).value.store = engine.store.receiveAll reports := by
  obtain ⟨objects, objectsReported⟩ :=
    engine.store_refreshSessionObjects disk
  obtain ⟨packages, packagesReported⟩ :=
    (engine.refreshSessionObjects disk).value.store_refreshLoadedPackages disk
  refine ⟨objects ++ packages, ?_⟩
  rw [value_refresh, packagesReported, objectsReported,
    Store.receiveAll_append]

/-! ## A session that serves both files -/

/-- A refresh reads both files, and these are their lines. -/
structure Serves
    (engine : Engine σ)
    (disk : Disk)
    (objects packages : List String) : Prop where
  /-- The lines of the object listing. -/
  objectsRead : engine.objectsRead disk = .ok objects
  /-- The lines of the loaded packages. -/
  packagesRead :
    (engine.refreshSessionObjects disk).value.packagesRead disk = .ok packages

/-- A steady session serves what it reads without being asked. -/
theorem serves_iff [Session.Steady σ]
    (engine : Engine σ)
    (disk : Disk)
    (objects packages : List String) :
    engine.Serves disk objects packages ↔
      Session.readRecords engine.session disk
          engine.configuration.paths.objectListingFile = .ok objects ∧
        Session.readRecords engine.session disk
          engine.configuration.paths.loadedPackagesFile = .ok packages := by
  have objectsAsked :
      engine.objectsRead disk =
        Session.readRecords engine.session disk
          engine.configuration.paths.objectListingFile :=
    Session.Steady.readRecords_requestObjects _ _ _ _
  have packagesAsked :
      (engine.refreshSessionObjects disk).value.packagesRead disk =
        Session.readRecords engine.session disk
          engine.configuration.paths.loadedPackagesFile := by
    rw [packagesRead, sessionAskedForPackages,
      Session.Steady.readRecords_requestLines,
      Session.Steady.readRecords_registerForDeletion,
      value_refreshSessionObjects, sessionAskedForObjects,
      Session.Steady.readRecords_requestObjects]
  constructor
  · intro serves
    exact ⟨objectsAsked ▸ serves.objectsRead,
      packagesAsked ▸ serves.packagesRead⟩
  · rintro ⟨objectsServed, packagesServed⟩
    exact ⟨objectsAsked.trans objectsServed,
      packagesAsked.trans packagesServed⟩

/-- A refresh that reads both files makes both reports. -/
theorem Serves.store_refresh
    {engine : Engine σ}
    {disk : Disk}
    {objects packages : List String}
    (serves : engine.Serves disk objects packages) :
    (engine.refresh disk).value.store =
      (engine.store.setSessionObjects objects).setLoadedPackages
        (namesOf packages) := by
  rw [value_refresh, value_refreshLoadedPackages, serves.packagesRead,
    value_refreshSessionObjects, serves.objectsRead]

end Engine
end RCompletion
