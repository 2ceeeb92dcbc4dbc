import RCompletion.Listing.File
import RCompletion.Notice

/-!
# Sessions

A session is the running R that writes the listings.  Requests are made without
waiting: the session writes a file in its own time, and what is on the disk is
read when it is needed.
-/

namespace RCompletion

/-- What a session makes of a request. -/
structure Session.Reply (σ : Type) where
  /-- The session after the request. -/
  session : σ
  /-- Whether the session accepts the request. -/
  outcome : Except Failure Unit
  /-- The notices that the session gives. -/
  notices : List Notice := []

/-- A session of R. -/
class Session (σ : Type) where
  /-- Whether the session is running. -/
  isRunning : σ → Bool
  /-- Start the session. -/
  start : σ → Session.Reply σ
  /-- Ask for the lines of an expression to be written to a file. -/
  requestLines : σ → (expression : String) → (destination : Path) → Session.Reply σ
  /-- Ask for the listing of the global environment to be written to a file. -/
  requestObjects : σ → (destination : Path) → Session.Reply σ
  /-- Mark a temporary file for removal when the session ends. -/
  registerForDeletion : σ → Path → σ
  /-- Read a listing that the session wrote. -/
  readRecords : σ → Disk → Path → Except Failure (List String)

namespace Session

/-- A session that accepts a request. -/
def Reply.accepted (session : σ) : Reply σ where
  session := session
  outcome := .ok ()

/-- The R code that writes the lines of an expression to a file. -/
def writeLinesCommand (expression : String) (destination : Path) : String :=
  "writeLines(text = paste(" ++ expression ++ ", collapse=\"\\n\"), con = \"" ++
    destination.text ++ "\")"

end Session
end RCompletion
