import RCompletion.Buffer.Context
import RCompletion.Session.Basic
import RCompletion.Store.Directory

/-!
# The completion engine

The engine answers completion requests for one session.  A request that needs
the session first asks it for its listings and takes over what can be read; the
answer is then drawn from the store alone.
-/

namespace RCompletion

/-- The answer to a completion request. -/
structure Response where
  /-- The column from which a candidate replaces the typed text. -/
  startColumn : Nat
  /-- The candidates, in the order in which they are offered. -/
  candidates : List Candidate
deriving Repr, BEq

/-- The completion source for one session. -/
structure Engine (σ : Type) where
  /-- The configuration. -/
  configuration : Configuration
  /-- What finds the context of a cursor. -/
  detector : Buffer.Detector
  /-- The candidates that answers are drawn from. -/
  store : Store
  /-- The session. -/
  session : σ

/-! ## Answers from the store -/

namespace Store

/-- The objects that match a word, or the fields of the piped object. -/
def objectMatches (store : Store) (word : String) (pipe : Option String) :
    List Candidate :=
  match pipe with
  | some source =>
      Selection.byStart store.sessionObjects (source ++ "$") none true
  | none =>
      if Text.contains word "$" then
        Selection.byStart store.sessionObjects word none true
      else
        Selection.byStart store.sessionObjects word (some "$") false

/-- The loaded functions and the installed packages that match a word. -/
def functionMatches (store : Store) (word : String) : List Candidate :=
  Selection.byStart (store.loadedFunctions ++ store.installedPackages) word none
    false

/-- What matches a word, objects first. -/
def wordMatches (store : Store) (word : String) (pipe : Option String) :
    List Candidate :=
  store.objectMatches word pipe ++ store.functionMatches word

/--
The arguments of a function: those of a loaded function if there are several,
and otherwise rather those of a function in the global environment.
-/
def argumentsOf (store : Store) (function : String) : Selection.Arguments :=
  let loaded := Selection.argumentsOf store.loadedFunctions function
  if loaded.count ≤ 1 then
    let own := Selection.argumentsOf store.sessionObjects function
    if own.isKnown then own else loaded
  else
    loaded

/--
The arguments of a function and what matches a word.  The arguments come first,
unless the fields of a piped object are more likely to be wanted.
-/
def callMatches
    (store : Store)
    (function word : String)
    (pipe : Option String) : List Candidate :=
  let arguments := (store.argumentsOf function).candidates
  let others := store.wordMatches word pipe
  if pipe.isSome then others ++ arguments else arguments ++ others

end Store

namespace Engine

/-! ## The start of an engine -/

/-- Start the session, unless it is running. -/
def startSession [Session σ] (engine : Engine σ) : Logged (Engine σ) :=
  if Session.isRunning engine.session then
    pure engine
  else do
    let reply := Session.start engine.session
    Logged.report reply.notices
    Logged.reportFailure .sessionNotStarted reply.outcome
    return { engine with session := reply.session }

/-- The engine of a configuration, with its session started. -/
def ofConfiguration [Session σ] (configuration : Configuration) (session : σ) :
    Except Failure (Logged (Engine σ)) := do
  let detector ← Buffer.Detector.ofConfiguration configuration
  return startSession ⟨configuration, detector, .empty, session⟩

/-- An engine with the listings of the installed packages. -/
def loadPackageListings (engine : Engine σ) (disk : Disk) :
    Except Failure (Logged (Engine σ)) := do
  let directory := engine.configuration.paths.completionDirectory
  let loaded ← engine.store.loadPackageListings disk directory
  return do
    let store ← loaded
    return { engine with store := store }

/-! ## Taking over what the session wrote -/

/-- An engine with the objects of the session, or with the ones it has. -/
def refreshSessionObjects [Session σ] (engine : Engine σ) (disk : Disk) :
    Logged (Engine σ) := do
  let path := engine.configuration.paths.objectListingFile
  let reply := Session.requestObjects engine.session path
  Logged.report reply.notices
  Logged.reportFailure .objectsNotRequested reply.outcome
  let engine := { engine with session := reply.session }
  match Session.readRecords engine.session disk path with
  | .ok lines =>
      return { engine with store := engine.store.setSessionObjects lines }
  | .error cause => ⟨engine, [.objectsNotRead cause]⟩

/-- The loaded packages that a session wrote, or the ones that are known. -/
def readLoadedPackages [Session σ] (engine : Engine σ) (disk : Disk) (path : Path) :
    Logged (List String) :=
  match Session.readRecords engine.session disk path with
  | .ok lines => pure (lines.filter (· ≠ ""))
  | .error cause => ⟨engine.store.loadedPackages, [.packagesNotFound cause]⟩

/-- The expression whose lines are the loaded packages. -/
def loadedPackagesExpression : String := ".packages()"

/--
An engine that knows the loaded packages of the session, together with whether
other packages are loaded than before.
-/
def refreshLoadedPackages [Session σ] (engine : Engine σ) (disk : Disk) :
    Logged (Engine σ × Bool) := do
  let path := engine.configuration.paths.loadedPackagesFile
  let session := Session.registerForDeletion engine.session path
  let reply := Session.requestLines session loadedPackagesExpression path
  Logged.report reply.notices
  Logged.reportFailure .packagesNotRequested reply.outcome
  let engine := { engine with session := reply.session }
  let packages ← engine.readLoadedPackages disk path
  return ({ engine with store := engine.store.setLoadedPackages packages },
    engine.store.differsFrom packages)

/-- An engine that has taken over what the session wrote. -/
def refresh [Session σ] (engine : Engine σ) (disk : Disk) : Logged (Engine σ) := do
  let engine ← engine.refreshSessionObjects disk
  let (engine, _) ← engine.refreshLoadedPackages disk
  return engine

/-! ## Requests -/

/-- Whether the host should ask for candidates again after a typed text. -/
def triggersRefresh (engine : Engine σ) (typed : String) : Bool :=
  engine.detector.triggersRefresh typed

/-- The context of a cursor. -/
def detect (engine : Engine σ) (rows : List String) (cursor : Buffer.Cursor) :
    Buffer.Context :=
  engine.detector.detect rows cursor

/-- The candidates for a context, and the engine that they are drawn from. -/
def candidatesFor [Session σ]
    (engine : Engine σ)
    (disk : Disk)
    (context : Buffer.Context) : Logged (Engine σ × List Candidate) :=
  match context.kind with
  | .quoted => pure (engine, [])
  | .empty => pure (engine, [])
  | .call function =>
      if engine.configuration.isPackageLoader function then
        pure (engine, engine.store.installedPackages)
      else do
        let engine ← engine.refresh disk
        return (engine,
          engine.store.callMatches function context.word context.pipe)
  | .word => do
      let engine ← engine.refresh disk
      return (engine, engine.store.wordMatches context.word context.pipe)

/-- Answer a completion request. -/
def complete [Session σ]
    (engine : Engine σ)
    (disk : Disk)
    (rows : List String)
    (cursor : Buffer.Cursor) : Logged (Engine σ × Response) := do
  let context := engine.detect rows cursor
  let (engine, candidates) ← engine.candidatesFor disk context
  return (engine, ⟨context.startColumn, candidates⟩)

end Engine
end RCompletion
