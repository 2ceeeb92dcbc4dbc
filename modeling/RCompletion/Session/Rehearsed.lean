import RCompletion.Session.Basic

/-!
# Rehearsed sessions

A session in memory.  It records the requests it gets, and serves the files
that were set up for it, whatever is on the disk.
-/

namespace RCompletion
namespace Session

/-- A session that records its requests and serves files from memory. -/
structure Rehearsed where
  /-- Whether the session is running. -/
  running : Bool := true
  /-- Whether the session fails to start. -/
  failsToStart : Bool := false
  /-- How often the session was started. -/
  starts : Nat := 0
  /-- The requests, earliest first. -/
  requests : List String := []
  /-- The files marked for removal, earliest first. -/
  deletions : List Path := []
  /-- The files that the session serves, with their lines. -/
  files : List (Path × List String) := []
deriving Repr

namespace Rehearsed

/-- A session that no longer serves a file. -/
def withoutFile (session : Rehearsed) (path : Path) : Rehearsed :=
  { session with files := session.files.filter fun file => !file.1.same path }

/-- A session that serves a file with the given lines. -/
def withFile (session : Rehearsed) (path : Path) (lines : List String) : Rehearsed :=
  { session with files := (session.withoutFile path).files ++ [(path, lines)] }

/-- The lines of a file that the session serves. -/
def lines? (session : Rehearsed) (path : Path) : Option (List String) :=
  (session.files.find? fun file => file.1.same path).map (·.2)

/-- Record a request. -/
def record (session : Rehearsed) (request : String) : Rehearsed :=
  { session with requests := session.requests ++ [request] }

/-- The record of a request to write something to a file. -/
def requestText (subject : String) (destination : Path) : String :=
  subject ++ " -> " ++ destination.text

/-- Start the session, unless it fails to. -/
def started (session : Rehearsed) : Reply Rehearsed :=
  let session := { session with starts := session.starts + 1 }
  if session.failsToStart then
    { session := session, outcome := .error .notInstalled }
  else
    Reply.accepted { session with running := true }

instance : Session Rehearsed where
  isRunning := running
  start := started
  requestLines session expression destination :=
    Reply.accepted (session.record (requestText expression destination))
  requestObjects session destination :=
    Reply.accepted (session.record (requestText "objects" destination))
  registerForDeletion session path :=
    { session with deletions := session.deletions ++ [path] }
  readRecords session _ path :=
    match session.lines? path with
    | some lines => .ok lines
    | none => .error (.noSuchFile path)

end Rehearsed
end Session
end RCompletion
