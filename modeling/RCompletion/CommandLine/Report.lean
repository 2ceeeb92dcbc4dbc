import RCompletion.Candidate.Json
import RCompletion.CommandLine.Request
import RCompletion.Configuration.Environment
import RCompletion.Configuration.File
import RCompletion.Engine
import RCompletion.Session.Offline

/-!
# Reports of the command line

What a request writes to standard output, or the message that it fails with.
-/

namespace RCompletion

/-- The JSON value of an answer. -/
def Response.toJson (response : Response) : Json :=
  .object [
    ("start_column", .natural response.startColumn),
    ("candidates", .array (Candidate.listToJson response.candidates))]

namespace CommandLine

/-- What a run of the program leaves. -/
structure Report where
  /-- The exit code. -/
  exitCode : Nat
  /-- The standard output. -/
  output : String
  /-- The message on standard error, if there is one. -/
  message : Option String
deriving Repr, DecidableEq

/-- The report of a run that writes something. -/
def Report.success (output : String) : Report :=
  ⟨0, output, none⟩

/-- The report of a run that fails. -/
def Report.failure (message : String) : Report :=
  ⟨1, "", some ("Error: " ++ message)⟩

/-- The name and the version of the program. -/
def versionText : String := "omni-r 0.1.0"

/-- The usage of the program. -/
def usageText : String :=
  versionText ++ ", R completions from nvim-R omni listings.\n" ++
  "\n" ++
  "Usage: omni-r [OPTIONS] --file <FILE> --line <LINE> --column <COLUMN>\n" ++
  "       omni-r [--config <FILE>] --source-info\n" ++
  "\n" ++
  "Available options:\n" ++
  "\n" ++
  "--file <FILE>                R script to complete in\n" ++
  "--line <LINE>                Line of the cursor, starting at 1\n" ++
  "--column <COLUMN>            Number of characters before the cursor\n" ++
  "--config <FILE>              JSON configuration, see `OmniConfig`\n" ++
  "--source-info                Print how the source registers with the editor\n" ++
  "--version                    Print the version\n" ++
  "--help                       Print this help message\n" ++
  "\n" ++
  "Listings are looked up in $NVIMR_COMPLDIR and $NVIMR_TMPDIR for the session\n" ++
  "$NVIMR_ID unless the configuration says otherwise.\n" ++
  "\n"

/-- The configuration of a run, from a file if one is given. -/
def loadConfiguration
    (disk : Disk)
    (environment : Configuration.Environment)
    (path : Option Path) : Except Failure Configuration := do
  let configuration ←
    match path with
    | some path => Configuration.ofFile disk path
    | none => pure {}
  return configuration.withFallbacks environment

/-- The answer to a request for completions. -/
def complete
    (disk : Disk)
    (environment : Configuration.Environment)
    (completion : Completion) : Except Failure Response := do
  let configuration ←
    loadConfiguration disk environment completion.configuration
  match disk.readText? completion.file with
  | none => throw (.unreadableScript completion.file)
  | some text => do
      let engine ← Engine.ofConfiguration configuration ({} : Session.Offline)
      let engine ← engine.value.loadPackageListings disk
      let answer :=
        engine.value.complete disk (Text.lines text) completion.cursor
      return answer.value.2

/-- What a request writes to standard output. -/
def Request.output
    (disk : Disk)
    (environment : Configuration.Environment) :
    Request → Except Failure String
  | complete completion =>
      (CommandLine.complete disk environment completion).map fun response =>
        response.toJson.pretty ++ "\n"
  | sourceInfo path =>
      (loadConfiguration disk environment path).map fun configuration =>
        configuration.source.toJson.pretty ++ "\n"
  | version => .ok (versionText ++ "\n")
  | help => .ok usageText

/-- The report of a run with the given arguments. -/
def run
    (disk : Disk)
    (environment : Configuration.Environment)
    (arguments : List String) : Report :=
  match parse arguments with
  | .error problem => .failure problem.message
  | .ok request =>
      match request.output disk environment with
      | .error failure => .failure failure.message
      | .ok output => .success output

end CommandLine
end RCompletion
