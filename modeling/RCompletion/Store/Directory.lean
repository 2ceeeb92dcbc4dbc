import RCompletion.Listing.File
import RCompletion.Notice
import RCompletion.Store.Basic

/-!
# Completion directories

The package listings are the files directly in the completion directory whose
names say so.  They are added in the order of the bytes of their names; one
that cannot be read is left out, with a notice.
-/

namespace RCompletion
namespace Store

/-- Whether the name of a file comes before another one, or is the same. -/
def nameLE (left right : FileName) : Bool :=
  Disk.bytesLE left right

/-- The names of the files among the contents of a directory, in order. -/
def fileNames (contents : List (FileName × Node)) : List FileName :=
  (contents.filterMap fun (name, node) =>
    match node with
    | .file _ => some name
    | .directory => none).mergeSort nameLE

/-- The names of the package listings among file names. -/
def listingNames (names : List FileName) : List String :=
  (names.filterMap String.fromUTF8?).filter Listing.isListingName

/-- A store with one more listing of a directory, if it can be read. -/
def addListingFile
    (disk : Disk)
    (directory : Path)
    (store : Store)
    (name : String) : Logged Store :=
  match Listing.recordsOfFile disk (directory.join name) with
  | .ok lines => pure (store.addPackageListing name lines)
  | .error cause => ⟨store, [.listingSkipped cause]⟩

/-- A store with the listings of a directory that have the given names. -/
def addListingFiles
    (disk : Disk)
    (directory : Path)
    (store : Store) :
    List String → Logged Store
  | [] => pure store
  | name :: names => do
      let store ← addListingFile disk directory store name
      addListingFiles disk directory store names

/-- A store with the package listings of a directory. -/
def loadPackageListings
    (store : Store)
    (disk : Disk)
    (directory : Path) : Except Failure (Logged Store) :=
  match disk.list? directory with
  | none => .error (.unlistableDirectory directory)
  | some contents =>
      .ok (addListingFiles disk directory store
        (listingNames (fileNames contents)))

end Store
end RCompletion
