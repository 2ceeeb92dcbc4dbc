import RCompletion.Configuration.Json
import RCompletion.Disk.Basic
import RCompletion.Failure

/-!
# Configuration files

A configuration file is a UTF-8 text that holds the JSON of a configuration.
-/

namespace RCompletion
namespace Configuration

/-- The configuration in a file. -/
def ofFile (disk : Disk) (path : Path) : Except Failure Configuration :=
  match disk.readText? path with
  | none => .error (.unreadableConfiguration path)
  | some text =>
      (ofJson text).mapError (.invalidConfigurationFile path)

end Configuration
end RCompletion
