import RCompletion.Session.Basic

/-!
# Sessions driven through nvimcom

The editor plugin owns the session, and requests reach it through a transport.
The plugin writes the object listing to a file of its own choice.  Temporary
files that were registered are removed when the session is closed.
-/

namespace RCompletion
namespace Session

/-- What a transport makes of a request. -/
structure Delivery (τ : Type) where
  /-- The transport after the request. -/
  transport : τ
  /-- Whether the request was delivered. -/
  outcome : Except Failure Unit

/-- A channel to the editor plugin that owns a session. -/
class Transport (τ : Type) where
  /-- Whether the session is running. -/
  isRunning : τ → Bool
  /-- Start the session. -/
  start : τ → Delivery τ
  /-- Send code to the R side of the plugin. -/
  send : τ → (command : String) → Delivery τ
  /-- Ask the plugin to write the listing of the global environment. -/
  listObjects : τ → Delivery τ

/-- A session that is driven through a transport. -/
structure Nvimcom (τ : Type) where
  /-- The identifier of the session. -/
  id : String
  /-- The channel to the plugin. -/
  transport : τ
  /-- The file that the plugin writes the object listing to. -/
  objectListing : Path
  /-- The files to remove at the end, each of them once. -/
  registered : List Path := []

namespace Nvimcom

/-- The reply to a request that was handed to the transport. -/
def reply
    (session : Nvimcom τ)
    (delivery : Delivery τ)
    (notices : List Notice) : Reply (Nvimcom τ) where
  session := { session with transport := delivery.transport }
  outcome := delivery.outcome
  notices := notices

/-- A command as the R side expects it, after a backspace and the identifier. -/
def command (session : Nvimcom τ) (code : String) : String :=
  "\x08" ++ session.id ++ code

/-- Whether a file is already registered. -/
def isRegistered (session : Nvimcom τ) (path : Path) : Bool :=
  session.registered.any (·.same path)

/-- Register a file for removal, unless it already is. -/
def register (session : Nvimcom τ) (path : Path) : Nvimcom τ :=
  if session.isRegistered path then
    session
  else
    { session with registered := session.registered ++ [path] }

/-- The notice that the object listing is written to another file. -/
def destinationNotices (session : Nvimcom τ) (destination : Path) : List Notice :=
  if destination.same session.objectListing then
    []
  else
    [.listingElsewhere session.objectListing destination]

instance [Transport τ] : Session (Nvimcom τ) where
  isRunning session := Transport.isRunning session.transport
  start session := session.reply (Transport.start session.transport) []
  requestLines session expression destination :=
    session.reply
      (Transport.send session.transport
        (session.command (writeLinesCommand expression destination)))
      []
  requestObjects session destination :=
    session.reply
      (Transport.listObjects session.transport)
      (session.destinationNotices destination)
  registerForDeletion := register
  readRecords _ := Listing.recordsOfFile

/-! ## Closing -/

/-- Remove a file, giving notice if something else than its absence prevents it. -/
def removeTemporary (disk : Disk) (path : Path) : Logged Disk :=
  match disk.unlink path with
  | .ok disk => ⟨disk, []⟩
  | .error .missing => ⟨disk, []⟩
  | .error obstacle => ⟨disk, [.fileNotRemoved path obstacle]⟩

/-- Remove files one after the other. -/
def removeTemporaries (disk : Disk) : List Path → Logged Disk
  | [] => pure disk
  | path :: paths => do
      let disk ← removeTemporary disk path
      removeTemporaries disk paths

/-- The disk after the registered files are removed. -/
def close (session : Nvimcom τ) (disk : Disk) : Logged Disk :=
  removeTemporaries disk session.registered

end Nvimcom
end Session
end RCompletion
