import RCompletion.Disk.Basic
import RCompletion.Failure

/-!
# Notices

What is worth a line in the log.  An operation that goes on in spite of a
problem gives its result together with the notices, in their order.
-/

namespace RCompletion

/-- A line of the log. -/
inductive Notice where
  /-- The session does not start. -/
  | sessionNotStarted (cause : Failure)
  /-- The session cannot be asked for its loaded packages. -/
  | packagesNotRequested (cause : Failure)
  /-- The loaded packages of the session cannot be read. -/
  | packagesNotFound (cause : Failure)
  /-- The session cannot be asked for its objects. -/
  | objectsNotRequested (cause : Failure)
  /-- The objects of the session cannot be read. -/
  | objectsNotRead (cause : Failure)
  /-- A package listing is left out. -/
  | listingSkipped (cause : Failure)
  /-- The object listing is written to another file than asked for. -/
  | listingElsewhere (actual wanted : Path)
  /-- A temporary file cannot be removed. -/
  | fileNotRemoved (path : Path) (obstacle : Disk.Obstacle)
deriving Repr, DecidableEq

namespace Notice

/-- How serious a notice is. -/
inductive Level where
  /-- The operation goes on with what it has. -/
  | warning
  /-- A part of the program does not work. -/
  | error
deriving Repr, DecidableEq

/-- The level of a notice. -/
def level : Notice → Level
  | sessionNotStarted _ => .error
  | _ => .warning

/-- The system's message of an obstacle. -/
def obstacleText : Disk.Obstacle → String
  | .missing => "No such file or directory (os error 2)"
  | .isDirectory => "Is a directory (os error 21)"
  | .notDirectory => "Not a directory (os error 20)"

/-- The text of a notice. -/
def text : Notice → String
  | sessionNotStarted cause =>
      "Could not start the R session: " ++ cause.message
  | packagesNotRequested cause =>
      "Can't request loaded R packages: " ++ cause.message
  | packagesNotFound cause =>
      "Cannot find loaded R packages. Please start the R session: " ++
        cause.message
  | objectsNotRequested cause =>
      "Can't request the R object listing: " ++ cause.message
  | objectsNotRead cause =>
      "Can't read the R object listing: " ++ cause.message
  | listingSkipped cause => "Skipping package listing: " ++ cause.message
  | listingElsewhere actual wanted =>
      "Object listing is written to '" ++ actual.text ++ "', not '" ++
        wanted.text ++ "'"
  | fileNotRemoved path obstacle =>
      "Can't remove '" ++ path.text ++ "': " ++ obstacleText obstacle

end Notice

/-! ## Results with notices -/

/-- A result together with the notices on the way to it. -/
structure Logged (α : Type) where
  /-- The result. -/
  value : α
  /-- The notices, earliest first. -/
  notices : List Notice

namespace Logged

/-- A result without notices. -/
protected def pure (value : α) : Logged α :=
  ⟨value, []⟩

/-- Go on with a result and keep the notices of both parts. -/
protected def bind (first : Logged α) (next : α → Logged β) : Logged β :=
  let second := next first.value
  ⟨second.value, first.notices ++ second.notices⟩

instance : Monad Logged where
  pure := Logged.pure
  bind := Logged.bind

/-- Give notices. -/
def report (notices : List Notice) : Logged Unit :=
  ⟨(), notices⟩

/-- Give notice of a failure, if there is one. -/
def reportFailure (notice : Failure → Notice) (outcome : Except Failure Unit) :
    Logged Unit :=
  match outcome with
  | .ok _ => report []
  | .error cause => report [notice cause]

@[simp]
theorem value_pure (value : α) : (pure value : Logged α).value = value := rfl

@[simp]
theorem notices_pure (value : α) : (pure value : Logged α).notices = [] := rfl

@[simp]
theorem value_bind (first : Logged α) (next : α → Logged β) :
    (first >>= next).value = (next first.value).value := rfl

@[simp]
theorem notices_bind (first : Logged α) (next : α → Logged β) :
    (first >>= next).notices =
      first.notices ++ (next first.value).notices := rfl

end Logged
end RCompletion
