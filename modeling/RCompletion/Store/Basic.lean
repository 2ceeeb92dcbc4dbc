import RCompletion.Candidate.Selection
import RCompletion.Listing.FileName
import RCompletion.Listing.Record

/-!
# The candidate store

The candidates that completions are drawn from.  The functions of the loaded
packages are recomputed when the set of loaded packages changes, and only then.
-/

namespace RCompletion

/-- The candidates that completions are drawn from. -/
structure Store where
  /-- One candidate for every listing of an installed package. -/
  installedPackages : List Candidate := []
  /-- The symbols of all installed packages. -/
  packageSymbols : List Candidate := []
  /-- The functions of the packages that the session has loaded. -/
  loadedFunctions : List Candidate := []
  /-- The objects of the session's global environment. -/
  sessionObjects : List Candidate := []
  /-- The packages that the session has loaded. -/
  loadedPackages : List String := []
deriving Repr

namespace Store

/-- The store without any candidates. -/
def empty : Store := {}

/-- A store with the symbols of a listing, and with the package that it describes. -/
def addPackageListing
    (store : Store)
    (fileName : String)
    (lines : List String) : Store :=
  let described :=
    ((Listing.packageOfName? fileName).bind Listing.packageCandidate?).toList
  { store with
    installedPackages := store.installedPackages ++ described
    packageSymbols := store.packageSymbols ++ Listing.candidates lines }

/-- Whether two lists of names have the same members. -/
def sameMembers (left right : List String) : Bool :=
  left.all right.contains && right.all left.contains

/-- The functions among symbols that belong to one of the packages. -/
def functionsOf (symbols : List Candidate) (packages : List String) :
    List Candidate :=
  Selection.byCategory (Selection.byPackages symbols (some packages))
    (some .function)

/-- Whether other packages are loaded than the store knows of. -/
def differsFrom (store : Store) (packages : List String) : Bool :=
  !sameMembers store.loadedPackages packages

/-- A store that knows the loaded packages. -/
def setLoadedPackages (store : Store) (packages : List String) : Store :=
  { store with
    loadedPackages := packages
    loadedFunctions :=
      if store.differsFrom packages then
        functionsOf store.packageSymbols packages
      else
        store.loadedFunctions }

/-- A store with the objects of a listing of the global environment. -/
def setSessionObjects (store : Store) (lines : List String) : Store :=
  { store with sessionObjects := Listing.candidates lines }

/-- Two lists have the same members exactly when each name is in both or none. -/
theorem sameMembers_iff (left right : List String) :
    sameMembers left right = true ↔ ∀ name, name ∈ left ↔ name ∈ right := by
  simp only [sameMembers, Bool.and_eq_true, List.all_eq_true,
    List.contains_iff_mem]
  constructor
  · rintro ⟨forward, backward⟩ name
    exact ⟨forward name, backward name⟩
  · intro same
    exact ⟨fun name => (same name).mp, fun name => (same name).mpr⟩

@[simp]
theorem packageSymbols_addPackageListing
    (store : Store)
    (fileName : String)
    (lines : List String) :
    (store.addPackageListing fileName lines).packageSymbols =
      store.packageSymbols ++ Listing.candidates lines := rfl

@[simp]
theorem loadedFunctions_addPackageListing
    (store : Store)
    (fileName : String)
    (lines : List String) :
    (store.addPackageListing fileName lines).loadedFunctions =
      store.loadedFunctions := rfl

@[simp]
theorem loadedPackages_addPackageListing
    (store : Store)
    (fileName : String)
    (lines : List String) :
    (store.addPackageListing fileName lines).loadedPackages =
      store.loadedPackages := rfl

@[simp]
theorem packageSymbols_setLoadedPackages
    (store : Store)
    (packages : List String) :
    (store.setLoadedPackages packages).packageSymbols =
      store.packageSymbols := rfl

@[simp]
theorem sessionObjects_setLoadedPackages
    (store : Store)
    (packages : List String) :
    (store.setLoadedPackages packages).sessionObjects =
      store.sessionObjects := rfl

@[simp]
theorem packageSymbols_setSessionObjects
    (store : Store)
    (lines : List String) :
    (store.setSessionObjects lines).packageSymbols =
      store.packageSymbols := rfl

@[simp]
theorem sessionObjects_setSessionObjects
    (store : Store)
    (lines : List String) :
    (store.setSessionObjects lines).sessionObjects =
      Listing.candidates lines := rfl

@[simp]
theorem loadedPackages_setLoadedPackages
    (store : Store)
    (packages : List String) :
    (store.setLoadedPackages packages).loadedPackages = packages := rfl

end Store
end RCompletion
