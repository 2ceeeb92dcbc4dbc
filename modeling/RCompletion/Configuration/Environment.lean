import RCompletion.Configuration.Basic

/-!
# Environment variables

The session exports its paths and its identifier as environment variables, which
fill in what a configuration leaves empty.
-/

namespace RCompletion
namespace Configuration

/-- The environment variables that tell the paths of a session. -/
structure Environment where
  /-- The directory of the package listings. -/
  completionDirectory : Option String := none
  /-- The directory of the files of the session. -/
  temporaryDirectory : Option String := none
  /-- The identifier of the session. -/
  sessionId : Option String := none
deriving Repr, DecidableEq

/-- The variable that holds the directory of the package listings. -/
def Environment.completionDirectoryName : String := "NVIMR_COMPLDIR"

/-- The variable that holds the directory of the files of the session. -/
def Environment.temporaryDirectoryName : String := "NVIMR_TMPDIR"

/-- The variable that holds the identifier of the session. -/
def Environment.sessionIdName : String := "NVIMR_ID"

/-- The environment that a look-up of variables describes. -/
def Environment.ofLookup (lookup : String → Option String) : Environment where
  completionDirectory := lookup completionDirectoryName
  temporaryDirectory := lookup temporaryDirectoryName
  sessionId := lookup sessionIdName

/-- A text, or the exported value if the text is empty and there is one. -/
def textOr (text : String) (exported : Option String) : String :=
  if text = "" then exported.getD "" else text

/-- Paths with the empty ones filled in from the environment. -/
def Paths.withFallbacks (paths : Paths) (environment : Environment) : Paths where
  completionDirectory :=
    ⟨textOr paths.completionDirectory.text environment.completionDirectory⟩
  temporaryDirectory :=
    ⟨textOr paths.temporaryDirectory.text environment.temporaryDirectory⟩
  sessionId := textOr paths.sessionId environment.sessionId

/-- A configuration with the empty paths filled in from the environment. -/
def withFallbacks
    (configuration : Configuration)
    (environment : Environment) : Configuration :=
  { configuration with paths := configuration.paths.withFallbacks environment }

end Configuration
end RCompletion
