import RCompletion.Text.Split

/-!
# Names of listing files

The listing of a package is a file whose name tells the package: its name
stands between the first two underscores, as in `omnils_dplyr_1.1.4`.
-/

namespace RCompletion
namespace Listing

/-- What the name of every package listing contains. -/
def marker : String := "omnils"

/-- Whether a file is a package listing, after its name. -/
def isListingName (name : String) : Bool :=
  Text.contains name marker

/-- The package that a listing describes, if the name of its file tells. -/
def packageOfName? (name : String) : Option String :=
  match Text.fields '_' name with
  | _ :: package :: _ :: _ => if package = "" then none else some package
  | _ => none

end Listing
end RCompletion
