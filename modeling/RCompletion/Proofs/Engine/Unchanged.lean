import RCompletion.Proofs.Engine.Run

/-!
# Refreshing again

As long as the files of a session do not change, it makes no difference how
often and by which calls an engine takes them over before a request: the store
that the request is answered from is the same.
-/

namespace RCompletion
namespace Store

/-- A store with the objects of a listing, or as it is if none could be read. -/
def takeObjects (store : Store) (read : Except Failure (List String)) : Store :=
  match read with
  | .ok lines => store.setSessionObjects lines
  | .error _ => store

/-- A store with the loaded packages, or as it is if none could be read. -/
def takePackages (store : Store) (read : Except Failure (List String)) : Store :=
  match read with
  | .ok lines => store.setLoadedPackages (Engine.namesOf lines)
  | .error _ => store

/-- Recording what is recorded changes nothing. -/
theorem setLoadedPackages_loadedPackages (store : Store) :
    store.setLoadedPackages store.loadedPackages = store := by
  have same : store.differsFrom store.loadedPackages = false := by
    rw [← Bool.not_eq_true, differsFrom_iff]
    exact fun differs => differs rfl
  rw [setLoadedPackages, same]
  rfl

theorem takeObjects_takeObjects
    (store : Store)
    (read : Except Failure (List String)) :
    (store.takeObjects read).takeObjects read = store.takeObjects read := by
  cases read with
  | ok lines => rfl
  | error cause => rfl

theorem takePackages_takePackages
    (store : Store)
    (read : Except Failure (List String)) :
    (store.takePackages read).takePackages read = store.takePackages read := by
  cases read with
  | ok lines => exact setLoadedPackages_loadedPackages _
  | error cause => rfl

/-- Objects and packages can be taken over in any order. -/
theorem takeObjects_takePackages
    (store : Store)
    (objects packages : Except Failure (List String)) :
    (store.takePackages packages).takeObjects objects =
      (store.takeObjects objects).takePackages packages := by
  cases objects with
  | ok lines =>
      cases packages with
      | ok names => rfl
      | error cause => rfl
  | error cause => rfl

end Store

namespace Engine

open Session (ReadsAlike)

variable {σ : Type} [Session σ]

/-! ## What is served -/

/-- What the session serves as its objects. -/
def objectsServed (engine : Engine σ) (disk : Disk) :
    Except Failure (List String) :=
  Session.readRecords engine.session disk
    engine.configuration.paths.objectListingFile

/-- What the session serves as its loaded packages. -/
def packagesServed (engine : Engine σ) (disk : Disk) :
    Except Failure (List String) :=
  Session.readRecords engine.session disk
    engine.configuration.paths.loadedPackagesFile

/-- A call that finds a disk and leaves a session with the files it had. -/
def Call.Undisturbed (session : σ) (disk : Disk) : Call σ → Prop
  | .session next => ReadsAlike next session
  | .refreshObjects other => other = disk
  | .refreshPackages other => other = disk
  | .complete other _ _ => other = disk

variable [Session.Steady σ]

/-! ## One refresh -/

theorem readsAlike_refreshSessionObjects
    (engine : Engine σ)
    (disk : Disk) :
    ReadsAlike (engine.refreshSessionObjects disk).value.session
      engine.session := by
  rw [value_refreshSessionObjects]
  intro other path
  exact Session.Steady.readRecords_requestObjects _ _ _ _

theorem readsAlike_refreshLoadedPackages
    (engine : Engine σ)
    (disk : Disk) :
    ReadsAlike (engine.refreshLoadedPackages disk).value.1.session
      engine.session := by
  rw [value_refreshLoadedPackages]
  intro other path
  exact (Session.Steady.readRecords_requestLines _ _ _ _ _).trans
    (Session.Steady.readRecords_registerForDeletion _ _ _ _)

theorem readsAlike_refresh (engine : Engine σ) (disk : Disk) :
    ReadsAlike (engine.refresh disk).value.session engine.session := by
  rw [value_refresh]
  exact (readsAlike_refreshLoadedPackages _ disk).trans
    (readsAlike_refreshSessionObjects engine disk)

theorem store_refreshSessionObjects_eq (engine : Engine σ) (disk : Disk) :
    (engine.refreshSessionObjects disk).value.store =
      engine.store.takeObjects (engine.objectsServed disk) := by
  have read : engine.objectsRead disk = engine.objectsServed disk :=
    Session.Steady.readRecords_requestObjects _ _ _ _
  rw [value_refreshSessionObjects, read]
  rfl

theorem store_refreshLoadedPackages_eq (engine : Engine σ) (disk : Disk) :
    (engine.refreshLoadedPackages disk).value.1.store =
      engine.store.takePackages (engine.packagesServed disk) := by
  have read : engine.packagesRead disk = engine.packagesServed disk :=
    (Session.Steady.readRecords_requestLines _ _ _ _ _).trans
      (Session.Steady.readRecords_registerForDeletion _ _ _ _)
  rw [value_refreshLoadedPackages, read]
  cases engine.packagesServed disk with
  | ok lines => rfl
  | error cause => exact Store.setLoadedPackages_loadedPackages _

theorem store_refresh_eq (engine : Engine σ) (disk : Disk) :
    (engine.refresh disk).value.store =
      (engine.store.takeObjects (engine.objectsServed disk)).takePackages
        (engine.packagesServed disk) := by
  have served :
      (engine.refreshSessionObjects disk).value.packagesServed disk =
        engine.packagesServed disk := by
    rw [packagesServed, configuration_refreshSessionObjects]
    exact engine.readsAlike_refreshSessionObjects disk _ _
  rw [value_refresh, store_refreshLoadedPackages_eq, served,
    store_refreshSessionObjects_eq]

/-! ## Calls between -/

theorem readsAlike_call
    {engine : Engine σ}
    {session : σ}
    {disk : Disk}
    {next : Call σ}
    (alike : ReadsAlike engine.session session)
    (undisturbed : next.Undisturbed session disk) :
    ReadsAlike (engine.call next).session session := by
  cases next with
  | session next => exact undisturbed
  | refreshObjects other =>
      exact (engine.readsAlike_refreshSessionObjects other).trans alike
  | refreshPackages other =>
      exact (engine.readsAlike_refreshLoadedPackages other).trans alike
  | complete other rows cursor =>
      rw [call, value_complete, answering]
      split
      · exact (engine.readsAlike_refresh other).trans alike
      · exact alike

/-- A refresh after an undisturbed call leads to the store it leads to without it. -/
theorem store_refresh_call
    {engine : Engine σ}
    {session : σ}
    {disk : Disk}
    {next : Call σ}
    (alike : ReadsAlike engine.session session)
    (undisturbed : next.Undisturbed session disk) :
    ((engine.call next).refresh disk).value.store =
      (engine.refresh disk).value.store := by
  have kept := (readsAlike_call alike undisturbed).trans alike.symm
  have configuration := (engine.call_keeps next).1
  have objects :
      (engine.call next).objectsServed disk = engine.objectsServed disk := by
    rw [objectsServed, configuration]
    exact kept _ _
  have packages :
      (engine.call next).packagesServed disk = engine.packagesServed disk := by
    rw [packagesServed, configuration]
    exact kept _ _
  rw [store_refresh_eq, store_refresh_eq, objects, packages]
  cases next with
  | session next => rfl
  | refreshObjects other =>
      obtain rfl : other = disk := undisturbed
      rw [call, store_refreshSessionObjects_eq,
        Store.takeObjects_takeObjects]
  | refreshPackages other =>
      obtain rfl : other = disk := undisturbed
      rw [call, store_refreshLoadedPackages_eq,
        Store.takeObjects_takePackages, Store.takePackages_takePackages]
  | complete other rows cursor =>
      obtain rfl : other = disk := undisturbed
      rw [call, value_complete, answering]
      split
      · rw [store_refresh_eq, Store.takeObjects_takePackages,
          Store.takeObjects_takeObjects, Store.takePackages_takePackages]
      · rfl

/-- Undisturbed calls before a refresh make no difference to the store it leads to. -/
theorem store_refresh_callAll
    {engine : Engine σ}
    {disk : Disk}
    {calls : List (Call σ)}
    (undisturbed : ∀ next ∈ calls, next.Undisturbed engine.session disk) :
    ((engine.callAll calls).refresh disk).value.store =
      (engine.refresh disk).value.store := by
  -- the calls leave other sessions behind, which all read like the first one
  suffices general :
      ∀ (later : Engine σ), ReadsAlike later.session engine.session →
        ((later.callAll calls).refresh disk).value.store =
          (later.refresh disk).value.store from
    general engine (.refl _)
  induction calls with
  | nil =>
      intro later _
      rfl
  | cons next calls inductionHypothesis =>
      intro later alike
      obtain ⟨first, rest⟩ := List.forall_mem_cons.mp undisturbed
      rw [callAll, List.foldl_cons, ← callAll,
        inductionHypothesis rest _ (readsAlike_call alike first),
        store_refresh_call alike first]

end Engine
end RCompletion
