import RCompletion.Proofs.Store.Reports
import RCompletion.Store.Directory

/-!
# Directories as listings

Loading a completion directory adds the listings that can be read in it, and
does nothing else.
-/

namespace RCompletion
namespace Store

/-- The listings of a directory that can be read, out of those with the given names. -/
def readableListings
    (disk : Disk)
    (directory : Path)
    (names : List String) : List (String × List String) :=
  names.filterMap fun name =>
    match Listing.recordsOfFile disk (directory.join name) with
    | .ok lines => some (name, lines)
    | .error _ => none

/-- The listings that loading a directory adds, none if it cannot be listed. -/
def listingsIn (disk : Disk) (directory : Path) : List (String × List String) :=
  match disk.list? directory with
  | none => []
  | some contents =>
      readableListings disk directory (listingNames (fileNames contents))

/-- Adding the listings of a directory adds those that can be read. -/
theorem value_addListingFiles
    (disk : Disk)
    (directory : Path)
    (store : Store)
    (names : List String) :
    (addListingFiles disk directory store names).value =
      store.addPackageListings (readableListings disk directory names) := by
  induction names generalizing store with
  | nil => rfl
  | cons name names inductionHypothesis =>
      rw [addListingFiles, Logged.value_bind, inductionHypothesis]
      unfold addListingFile readableListings
      cases read : Listing.recordsOfFile disk (directory.join name) with
      | ok lines => simp [read]
      | error cause => simp [read]

/-- Loading a directory adds its listings, or fails. -/
theorem loadPackageListings_eq
    (store : Store)
    (disk : Disk)
    (directory : Path) :
    (store.loadPackageListings disk directory = .error
        (.unlistableDirectory directory) ∧
      listingsIn disk directory = []) ∨
    ∃ loaded, store.loadPackageListings disk directory = .ok loaded ∧
      loaded.value =
        store.addPackageListings (listingsIn disk directory) := by
  unfold loadPackageListings listingsIn
  cases disk.list? directory with
  | none => exact .inl ⟨rfl, rfl⟩
  | some contents =>
      exact .inr ⟨_, rfl, value_addListingFiles disk directory store _⟩

end Store
end RCompletion
