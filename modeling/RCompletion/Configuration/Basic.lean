import RCompletion.Disk.Path

/-!
# Configuration

How the completion source registers with the editor, which functions load
packages, which operators chain calls, and where the session writes its files.
-/

namespace RCompletion
namespace Configuration

/-- How the source registers with the completion host. -/
structure Source where
  /-- The name of the source. -/
  name : String := "R"
  /-- The priority among the sources. -/
  priority : Nat := 9
  /-- The name shown in the menu. -/
  abbreviation : String := "R"
  /-- The grammar scopes that the source is active in. -/
  scopes : List String := ["r"]
  /-- The pattern of the word that a candidate replaces. -/
  wordPattern : String := "[\\w_\\.]+"
  /-- Whether the host may cache early, as a number. -/
  earlyCache : Nat := 1
  /-- The host asks again when the typed text ends with one of these patterns. -/
  refreshPatterns : List String := ["\\$", "\\(", "\"", "'", ",\\s"]
deriving Repr, DecidableEq, Inhabited

/-- Where the session writes its listings. -/
structure Paths where
  /-- The directory of the package listings. -/
  completionDirectory : Path := ⟨""⟩
  /-- The directory of the files of a session. -/
  temporaryDirectory : Path := ⟨""⟩
  /-- The identifier of the session, with which its file names end. -/
  sessionId : String := ""
deriving Repr, DecidableEq, Inhabited

/-- The file that the session lists its loaded packages in. -/
def Paths.loadedPackagesFile (paths : Paths) : Path :=
  paths.temporaryDirectory.join ("loaded_pkgs_" ++ paths.sessionId)

/-- The file that the session lists its objects in. -/
def Paths.objectListingFile (paths : Paths) : Path :=
  paths.temporaryDirectory.join ("GlobalEnvList_" ++ paths.sessionId)

end Configuration

/-- The configuration of the completion source. -/
structure Configuration where
  /-- How the source registers with the host. -/
  source : Configuration.Source := {}
  /-- The functions whose arguments are package names. -/
  packageLoaders : List String := ["library", "require"]
  /-- The operators that chain a value through calls. -/
  pipeOperators : List String := ["%>%", "|>"]
  /-- Where the session writes its listings. -/
  paths : Configuration.Paths := {}
deriving Repr, DecidableEq, Inhabited

/-- Whether the arguments of a function are package names. -/
def Configuration.isPackageLoader
    (configuration : Configuration)
    (function : String) : Bool :=
  configuration.packageLoaders.contains function

end RCompletion
