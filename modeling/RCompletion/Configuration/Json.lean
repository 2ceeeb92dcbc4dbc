import RCompletion.Configuration.Basic
import RCompletion.Json.Basic
import RCompletion.Json.Reader

/-!
# Configurations in JSON

A configuration is read from an object of its sections, in which every section
and every field may be missing and then has its default value, and the source
section is written.
-/

namespace RCompletion
namespace Configuration

/-! ## Reading -/

/-- Read a path. -/
def readPath : Json.Reader Path := fun text =>
  (Json.readText .path text).map fun (path, rest) => (⟨path⟩, rest)

/-- A field that is read without regard to the others and stored. -/
def storedField (name : String) (read : Json.Reader β) (store : α → β → α) :
    Json.Field α where
  name := name
  required := false
  read := fun value text =>
    (read text).map fun (field, rest) => (store value field, rest)

/-- The source section, given how many levels are left inside it. -/
def Source.shape (depth : Nat) : Json.RecordShape Source where
  name := "SourceConfig"
  fields := [
    storedField "name" Json.readString
      fun source name => { source with name := name },
    storedField "priority" Json.readNatural32
      fun source priority => { source with priority := priority },
    storedField "abbreviation" Json.readString
      fun source abbreviation => { source with abbreviation := abbreviation },
    storedField "scopes" (Json.readList depth Json.readString)
      fun source scopes => { source with scopes := scopes },
    storedField "word_pattern" Json.readString
      fun source pattern => { source with wordPattern := pattern },
    storedField "early_cache" Json.readNatural32
      fun source cache => { source with earlyCache := cache },
    storedField "refresh_patterns" (Json.readList depth Json.readString)
      fun source patterns => { source with refreshPatterns := patterns }]

/-- The section of the paths. -/
def Paths.shape : Json.RecordShape Paths where
  name := "PathsConfig"
  fields := [
    storedField "completion_dir" readPath
      fun paths path => { paths with completionDirectory := path },
    storedField "tmp_dir" readPath
      fun paths path => { paths with temporaryDirectory := path },
    storedField "session_id" Json.readString
      fun paths session => { paths with sessionId := session }]

/-- A configuration, given how many levels are left inside it. -/
def shape (depth : Nat) : Json.RecordShape Configuration where
  name := "OmniConfig"
  fields := [
    storedField "source" ((Source.shape (depth - 1)).read depth {})
      fun configuration source => { configuration with source := source },
    storedField "package_loaders" (Json.readList depth Json.readString)
      fun configuration loaders =>
        { configuration with packageLoaders := loaders },
    storedField "pipe_operators" (Json.readList depth Json.readString)
      fun configuration operators =>
        { configuration with pipeOperators := operators },
    storedField "paths" (Paths.shape.read depth {})
      fun configuration paths => { configuration with paths := paths }]

/-- Read a configuration. -/
def read : Json.Reader Configuration :=
  (shape (Json.depthLimit - 1)).read Json.depthLimit {}

/-- Read the JSON text of a configuration. -/
def ofJson (text : String) : Except Json.Error Configuration :=
  Json.readDocument read text

/-! ## Writing -/

/-- The JSON value of a list of texts. -/
def textsToJson (texts : List String) : Json :=
  .array (texts.map .string)

/-- The JSON value of the source section. -/
def Source.toJson (source : Source) : Json :=
  .object [
    ("name", .string source.name),
    ("priority", .natural source.priority),
    ("abbreviation", .string source.abbreviation),
    ("scopes", textsToJson source.scopes),
    ("word_pattern", .string source.wordPattern),
    ("early_cache", .natural source.earlyCache),
    ("refresh_patterns", textsToJson source.refreshPatterns)]

/-- The JSON value of the section of the paths. -/
def Paths.toJson (paths : Paths) : Json :=
  .object [
    ("completion_dir", .string paths.completionDirectory.text),
    ("tmp_dir", .string paths.temporaryDirectory.text),
    ("session_id", .string paths.sessionId)]

/-- The JSON value of a configuration. -/
def toJson (configuration : Configuration) : Json :=
  .object [
    ("source", configuration.source.toJson),
    ("package_loaders", textsToJson configuration.packageLoaders),
    ("pipe_operators", textsToJson configuration.pipeOperators),
    ("paths", configuration.paths.toJson)]

end Configuration
end RCompletion
