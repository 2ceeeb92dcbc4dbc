import RCompletion.CommandLine.Report

/-!
# The command line

Copies the files that a request needs from the file system, answers the request
from the copies, and writes the answer.
-/

namespace RCompletion
namespace CommandLine

/-- The contents of a file of the file system, if it can be read. -/
def contents? (path : Path) : IO (Option ByteArray) := do
  try
    return some (← IO.FS.readBinFile path.text)
  catch _ =>
    return none

/-- A disk with copies of those of the given files that can be read. -/
def copyFiles (disk : Disk) : List Path → IO Disk
  | [] => return disk
  | path :: paths => do
      match ← contents? path with
      | some contents => copyFiles (disk.insertFile path contents) paths
      | none => copyFiles disk paths

/-- A disk with copies of the package listings in a directory. -/
def copyListings (disk : Disk) (directory : Path) : IO Disk := do
  if directory.isEmpty then
    return disk
  let place := (← IO.currentDir) / directory.text
  if ← place.isDir then
    let listings := (← place.readDir).toList.filter fun entry =>
      Listing.isListingName entry.fileName
    let files ← listings.filterM fun entry => do
      return (← entry.path.symlinkMetadata).type == .file
    copyFiles (disk.insertDirectoryAt directory)
      (files.map fun entry => directory.join entry.fileName)
  else if ← place.pathExists then
    copyFiles disk [directory]
  else
    return disk

/-- A disk with copies of the files that a request needs. -/
def copyNeeded (environment : Configuration.Environment) (request : Request) :
    IO Disk := do
  match request with
  | .complete completion => do
      let disk ← copyFiles .empty completion.configuration.toList
      match loadConfiguration disk environment completion.configuration with
      | .error _ => return disk
      | .ok configuration => do
          let paths := configuration.paths
          let disk ← copyFiles disk
            [completion.file, paths.loadedPackagesFile, paths.objectListingFile]
          copyListings disk paths.completionDirectory
  | .sourceInfo configuration => copyFiles .empty configuration.toList
  | .version => return .empty
  | .help => return .empty

/-- The environment variables that tell the paths of a session. -/
def exportedEnvironment : IO Configuration.Environment := do
  return {
    completionDirectory :=
      ← IO.getEnv Configuration.Environment.completionDirectoryName
    temporaryDirectory :=
      ← IO.getEnv Configuration.Environment.temporaryDirectoryName
    sessionId := ← IO.getEnv Configuration.Environment.sessionIdName }

end CommandLine
end RCompletion

/-- Answer the request that the arguments make. -/
def main (arguments : List String) : IO UInt32 := do
  let environment ← RCompletion.CommandLine.exportedEnvironment
  let disk ←
    match RCompletion.CommandLine.parse arguments with
    | .ok request => RCompletion.CommandLine.copyNeeded environment request
    | .error _ => pure .empty
  let report := RCompletion.CommandLine.run disk environment arguments
  IO.print report.output
  report.message.forM IO.eprintln
  return UInt32.ofNat report.exitCode
