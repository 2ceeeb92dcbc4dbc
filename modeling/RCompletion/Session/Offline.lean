import RCompletion.Session.Basic

/-!
# Offline sessions

A session whose listings are kept up to date by someone else.  It accepts every
request and does nothing.
-/

namespace RCompletion
namespace Session

/-- A session that leaves the listings to others. -/
structure Offline where
deriving Repr, DecidableEq

instance : Session Offline where
  isRunning _ := true
  start := Reply.accepted
  requestLines session _ _ := Reply.accepted session
  requestObjects session _ := Reply.accepted session
  registerForDeletion session _ := session
  readRecords _ := Listing.recordsOfFile

end Session
end RCompletion
