import RCompletion.Disk.Path
import RCompletion.Json.Error
import RCompletion.Pattern.Error

/-!
# Failures

The reasons for which an operation gives no result.  A failure that another one
caused shows its own message only.
-/

namespace RCompletion

/-- The reason why an operation gives no result. -/
inductive Failure where
  /-- No pipe operator is configured, or only an empty one. -/
  | noPipeOperator
  /-- A configured pattern is none. -/
  | invalidPattern (problem : Pattern.SyntaxError)
  /-- A listing cannot be read. -/
  | unreadableListing (path : Path)
  /-- A directory of listings cannot be listed. -/
  | unlistableDirectory (path : Path)
  /-- A configuration file cannot be read. -/
  | unreadableConfiguration (path : Path)
  /-- The JSON text of a configuration is wrong. -/
  | invalidConfiguration (problem : Json.Error)
  /-- The JSON text in a configuration file is wrong. -/
  | invalidConfigurationFile (path : Path) (problem : Json.Error)
  /-- A script cannot be read. -/
  | unreadableScript (path : Path)
  /-- A session does not serve a file. -/
  | noSuchFile (path : Path)
  /-- There is no R to start a session with. -/
  | notInstalled
  /-- A session declines a request. -/
  | refused (reason : String)
deriving Repr, DecidableEq

/-- The message of a failure. -/
def Failure.message : Failure → String
  | noPipeOperator => "At least one pipe operator is required"
  | invalidPattern _ => "regex parse error:"
  | unreadableListing path => "Can't read listing '" ++ path.text ++ "'"
  | unlistableDirectory path =>
      "Can't list completion directory '" ++ path.text ++ "'"
  | unreadableConfiguration path =>
      "Can't read config file '" ++ path.text ++ "'"
  | invalidConfiguration (.mismatch detail) => detail.message
  | invalidConfiguration .malformed => "invalid JSON"
  | invalidConfiguration .truncated => "unexpected end of JSON"
  | invalidConfigurationFile path _ =>
      "Can't parse config file '" ++ path.text ++ "'"
  | unreadableScript path => "Can't read '" ++ path.text ++ "'"
  | noSuchFile path => "No such file '" ++ path.text ++ "'"
  | notInstalled => "R is not installed"
  | refused reason => reason

end RCompletion
