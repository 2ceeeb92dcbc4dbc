import RCompletion.Disk.Basic
import RCompletion.Failure
import RCompletion.Text.Blank

/-!
# Listing files

A listing file is a UTF-8 text with one record a line; blanks around a record
do not count.
-/

namespace RCompletion
namespace Listing

/-- The records of the text of a listing. -/
def recordsOfText (text : String) : List String :=
  (Text.lines text).map Text.trim

/-- The records of a listing file. -/
def recordsOfFile (disk : Disk) (path : Path) : Except Failure (List String) :=
  match disk.readText? path with
  | some text => .ok (recordsOfText text)
  | none => .error (.unreadableListing path)

end Listing
end RCompletion
