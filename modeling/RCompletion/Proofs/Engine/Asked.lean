import RCompletion.Proofs.Engine.Blocks
import RCompletion.Proofs.Engine.Run

/-!
# What a session is asked for

A request either needs the session or leaves everything alone.  In the first
case the session is asked once for each of its two files, and one of them is
marked for removal.  What a rehearsed session records over a run of requests
is therefore told by the contexts of these requests, one after the other.
-/

namespace RCompletion

namespace Engine

variable {σ : Type}

/-- A completion request, and the disk that it finds. -/
structure Request where
  /-- What the disk holds. -/
  disk : Disk
  /-- The rows of the buffer. -/
  rows : List String
  /-- The place of the cursor. -/
  cursor : Buffer.Cursor

/-! ## What a request needs -/

/-- The context of a request. -/
def contextOf (engine : Engine σ) (request : Request) : Buffer.Context :=
  engine.detect request.rows request.cursor

/-- Whether a request needs the session. -/
def needsSession (engine : Engine σ) (request : Request) : Bool :=
  engine.configuration.needsSession (engine.contextOf request)

/-- Only quotation marks, empty contexts and package loaders need no session. -/
theorem needsSession_eq_false_iff (engine : Engine σ) (request : Request) :
    engine.needsSession request = false ↔
      (engine.contextOf request).kind = .quoted ∨
        (engine.contextOf request).kind = .empty ∨
          ∃ function ∈ engine.configuration.packageLoaders,
            (engine.contextOf request).kind = .call function := by
  rw [needsSession, Configuration.needsSession]
  cases (engine.contextOf request).kind with
  | quoted => simp
  | empty => simp
  | word => simp
  | call function => simp [Configuration.isPackageLoader]

/-- What a session is asked for by a request, in order. -/
def askedBy (engine : Engine σ) (request : Request) : List String :=
  if engine.needsSession request then
    ["objects -> " ++ engine.configuration.paths.objectListingFile.text,
      ".packages() -> " ++ engine.configuration.paths.loadedPackagesFile.text]
  else
    []

/-- The files that a request marks for removal. -/
def markedBy (engine : Engine σ) (request : Request) : List Path :=
  if engine.needsSession request then
    [engine.configuration.paths.loadedPackagesFile]
  else
    []

/-! ## Runs of requests -/

section

variable [Session σ]

/-- The engine after requests, earliest first. -/
def completeAll (engine : Engine σ) (requests : List Request) : Engine σ :=
  engine.callAll (requests.map fun request =>
    .complete request.disk request.rows request.cursor)

/-- The response to a request that follows other ones. -/
def responseAfter
    (engine : Engine σ)
    (before : List Request)
    (request : Request) : Response :=
  ((engine.completeAll before).complete request.disk request.rows
    request.cursor).value.2

theorem completeAll_cons
    (engine : Engine σ)
    (request : Request)
    (requests : List Request) :
    engine.completeAll (request :: requests) =
      (engine.completeAll [request]).completeAll requests := rfl

theorem completeAll_append
    (engine : Engine σ)
    (first second : List Request) :
    engine.completeAll (first ++ second) =
      (engine.completeAll first).completeAll second := by
  rw [completeAll, List.map_append, callAll, List.foldl_append]
  rfl

/-- A request is answered by the engine that is left behind. -/
theorem completeAll_singleton (engine : Engine σ) (request : Request) :
    engine.completeAll [request] =
      engine.answering request.disk
        (engine.detect request.rows request.cursor) := by
  have answered :=
    engine.value_complete request.disk request.rows request.cursor
  exact congrArg Prod.fst answered

theorem completeAll_keeps (engine : Engine σ) (requests : List Request) :
    (engine.completeAll requests).configuration = engine.configuration ∧
      (engine.completeAll requests).detector = engine.detector :=
  engine.callAll_keeps _

/-- Requests do not change what a later one needs. -/
theorem needsSession_completeAll
    (engine : Engine σ)
    (before : List Request)
    (request : Request) :
    (engine.completeAll before).needsSession request =
      engine.needsSession request := by
  obtain ⟨configuration, detector⟩ := engine.completeAll_keeps before
  rw [needsSession, contextOf, detect, configuration, detector]
  rfl

theorem askedBy_completeAll
    (engine : Engine σ)
    (before : List Request)
    (request : Request) :
    (engine.completeAll before).askedBy request = engine.askedBy request := by
  rw [askedBy, needsSession_completeAll, (engine.completeAll_keeps before).1]
  rfl

theorem markedBy_completeAll
    (engine : Engine σ)
    (before : List Request)
    (request : Request) :
    (engine.completeAll before).markedBy request =
      engine.markedBy request := by
  rw [markedBy, needsSession_completeAll, (engine.completeAll_keeps before).1]
  rfl

/-- Requests are a run of reports to the store. -/
theorem store_completeAll (engine : Engine σ) (requests : List Request) :
    ∃ reports,
      (engine.completeAll requests).store =
        engine.store.receiveAll reports :=
  engine.store_callAll _

/-- A request that does not need the session leaves the engine as it is. -/
theorem completeAll_singleton_of_not_needsSession
    {engine : Engine σ}
    {request : Request}
    (alone : engine.needsSession request = false) :
    engine.completeAll [request] = engine := by
  rw [completeAll_singleton, answering]
  exact if_neg (ne_true_of_eq_false alone)

theorem store_completeAll_of_not_needsSession
    {engine : Engine σ}
    {request : Request}
    (alone : engine.needsSession request = false)
    (before : List Request) :
    (engine.completeAll (before ++ [request])).store =
      (engine.completeAll before).store := by
  rw [completeAll_append, completeAll_singleton_of_not_needsSession]
  rw [needsSession_completeAll, alone]

/-- It is answered from the store that the requests before it leave behind. -/
theorem candidates_responseAfter
    {engine : Engine σ}
    {request : Request}
    (alone : engine.needsSession request = false)
    (before : List Request) :
    (engine.responseAfter before request).candidates =
      (engine.completeAll before).store.answer engine.configuration
        (engine.contextOf request) := by
  obtain ⟨configuration, detector⟩ := engine.completeAll_keeps before
  have context :
      (engine.completeAll before).detect request.rows request.cursor =
        engine.contextOf request := by
    rw [detect, detector]
    rfl
  have unrefreshed :
      ¬(engine.completeAll before).configuration.needsSession
        (engine.contextOf request) = true := by
    rw [configuration]
    exact ne_true_of_eq_false alone
  rw [responseAfter, value_complete, context, answering, if_neg unrefreshed,
    configuration]

end

/-! ## Records of a rehearsed session -/

/-- A refresh asks for each of the files once, and marks one of them. -/
theorem session_refresh (engine : Engine Session.Rehearsed) (disk : Disk) :
    (engine.refresh disk).value.session =
      { engine.session with
        requests := engine.session.requests ++
          ["objects -> " ++
              engine.configuration.paths.objectListingFile.text,
            ".packages() -> " ++
              engine.configuration.paths.loadedPackagesFile.text]
        deletions := engine.session.deletions ++
          [engine.configuration.paths.loadedPackagesFile] } := by
  have twice : ∀ first second : String,
      engine.session.requests ++ [first] ++ [second] =
        engine.session.requests ++ [first, second] := by simp
  rw [value_refresh, value_refreshLoadedPackages, value_refreshSessionObjects,
    ← twice]
  rfl

/-- A request asks for the files and marks one, if it needs the session. -/
theorem session_completeAll_singleton
    (engine : Engine Session.Rehearsed)
    (request : Request) :
    (engine.completeAll [request]).session =
      { engine.session with
        requests := engine.session.requests ++ engine.askedBy request
        deletions := engine.session.deletions ++ engine.markedBy request } := by
  cases needed : engine.needsSession request with
  | true =>
      have refreshed :
          engine.completeAll [request] =
            (engine.refresh request.disk).value := by
        rw [completeAll_singleton, answering]
        exact if_pos needed
      rw [refreshed, session_refresh, askedBy, if_pos needed, markedBy,
        if_pos needed]
  | false =>
      have alone : ¬engine.needsSession request = true := by simp [needed]
      rw [completeAll_singleton_of_not_needsSession needed, askedBy,
        if_neg alone, markedBy, if_neg alone, List.append_nil,
        List.append_nil]

/-- What a session has recorded after requests. -/
theorem session_completeAll
    (engine : Engine Session.Rehearsed)
    (requests : List Request) :
    (engine.completeAll requests).session =
      { engine.session with
        requests := engine.session.requests ++ requests.flatMap engine.askedBy
        deletions :=
          engine.session.deletions ++ requests.flatMap engine.markedBy } := by
  induction requests generalizing engine with
  | nil => simp [completeAll, callAll]
  | cons request requests inductionHypothesis =>
      have asked :
          (engine.completeAll [request]).askedBy = engine.askedBy :=
        funext (engine.askedBy_completeAll [request])
      have marked :
          (engine.completeAll [request]).markedBy = engine.markedBy :=
        funext (engine.markedBy_completeAll [request])
      rw [completeAll_cons, inductionHypothesis, asked, marked,
        session_completeAll_singleton, List.flatMap_cons, List.flatMap_cons,
        List.append_assoc, List.append_assoc]

/--
Over any run of requests, a rehearsed session records what the requests that
need it ask for, in their order, and nothing else happens to it; in particular
it is not started.  The installed packages and their symbols stay as they are.
Only requests in quotation marks, with nothing typed, or in the call of a
package loader do not need the session.  They leave the store alone; the last
ones are answered with the installed packages, the others with nothing.
-/
theorem completeAll_rehearsed
    (engine : Engine Session.Rehearsed)
    (requests : List Request) :
    let after := engine.completeAll requests
    after.session =
        { engine.session with
          requests :=
            engine.session.requests ++ requests.flatMap engine.askedBy
          deletions :=
            engine.session.deletions ++ requests.flatMap engine.markedBy } ∧
      (∀ request, engine.needsSession request = false ↔
        (engine.contextOf request).kind = .quoted ∨
          (engine.contextOf request).kind = .empty ∨
            ∃ function ∈ engine.configuration.packageLoaders,
              (engine.contextOf request).kind = .call function) ∧
      after.store.installedPackages = engine.store.installedPackages ∧
      after.store.packageSymbols = engine.store.packageSymbols ∧
      ∀ request,
        ((engine.contextOf request).kind = .quoted ∨
            (engine.contextOf request).kind = .empty →
          (engine.completeAll (requests ++ [request])).store = after.store ∧
            (engine.responseAfter requests request).candidates = []) ∧
        ∀ function ∈ engine.configuration.packageLoaders,
          (engine.contextOf request).kind = .call function →
            (engine.completeAll (requests ++ [request])).store = after.store ∧
              (engine.responseAfter requests request).candidates =
                engine.store.installedPackages := by
  intro after
  obtain ⟨reports, reported⟩ := engine.store_completeAll requests
  have installed :
      after.store.installedPackages = engine.store.installedPackages := by
    rw [reported, Store.installedPackages_receiveAll]
  refine ⟨engine.session_completeAll requests,
    engine.needsSession_eq_false_iff, installed, ?_, ?_⟩
  · rw [reported, Store.packageSymbols_receiveAll]
  · intro request
    constructor
    · intro nothing
      have alone : engine.needsSession request = false := by
        rw [needsSession_eq_false_iff]
        tauto
      refine ⟨store_completeAll_of_not_needsSession alone requests, ?_⟩
      rw [candidates_responseAfter alone, Store.answer]
      rcases nothing with quoted | empty
      · rw [quoted]
      · rw [empty]
    · intro function loader called
      have alone : engine.needsSession request = false := by
        rw [needsSession_eq_false_iff]
        exact .inr (.inr ⟨function, loader, called⟩)
      have loads : engine.configuration.isPackageLoader function = true :=
        List.contains_iff_mem.mpr loader
      refine ⟨store_completeAll_of_not_needsSession alone requests, ?_⟩
      rw [candidates_responseAfter alone, Store.answer, called]
      exact (if_pos loads).trans installed

/--
Of a word, a call of a package loader, a quoted text and a call, the first and
the last ask the session, which is not running and stays so.
-/
theorem completeAll_rehearsed_mixed :
    let engine : Engine Session.Rehearsed :=
      { chainEngine with
        session := { chainEngine.session with running := false } }
    let requests : List Request := [
      ⟨.empty, ["x <- c"], ⟨0, 6⟩⟩, ⟨.empty, ["library(st"], ⟨0, 10⟩⟩,
      ⟨.empty, ["f(\"c"], ⟨0, 4⟩⟩, ⟨.empty, ["df |>", "cor("], ⟨1, 4⟩⟩]
    let loads : Request := ⟨.empty, ["df |>", "require("], ⟨1, 8⟩⟩
    let asked := ["objects -> GlobalEnvList_", ".packages() -> loaded_pkgs_"]
    let after := engine.completeAll requests
    after.session =
        { engine.session with
          requests := asked ++ asked
          deletions := [⟨"loaded_pkgs_"⟩, ⟨"loaded_pkgs_"⟩] } ∧
      (engine.contextOf loads).kind = .call "require" ∧
      (engine.completeAll (requests ++ [loads])).store = after.store ∧
      (engine.responseAfter requests loads).candidates =
        engine.store.installedPackages ∧
      engine.store.installedPackages.map (·.label) = ["compiler", "stats"] := by
  intro engine requests loads asked after
  obtain ⟨session, -, -, -, alone⟩ :=
    completeAll_rehearsed engine requests
  have called : (engine.contextOf loads).kind = .call "require" := by decide
  obtain ⟨kept, answered⟩ := (alone loads).2 "require" (by decide) called
  exact ⟨session, called, kept, answered, rfl⟩

end Engine
end RCompletion
