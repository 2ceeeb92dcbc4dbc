import RCompletion.Proofs.Engine.Answer
import RCompletion.Proofs.Store.Directory

/-!
# Runs of an engine

An engine is created from a configuration and a session, gets the listings of
the installed packages, and is then called any number of times, while its
session and the disk may change between the calls.  Listings only add to the
store, calls only report to it, and neither touches what contexts are found
with.
-/

namespace RCompletion
namespace Engine

variable {σ : Type}

/-! ## Listings -/

/-- A way in which listings of installed packages get into an engine. -/
inductive Supply where
  /-- A listing is added. -/
  | listing (fileName : String) (lines : List String)
  /-- The completion directory of a disk is loaded. -/
  | directory (disk : Disk)

/-- The listings that a supply adds, given the completion directory. -/
def Supply.listings (directory : Path) : Supply → List (String × List String)
  | .listing fileName lines => [(fileName, lines)]
  | .directory disk => Store.listingsIn disk directory

/-- The engine after a supply; a directory that cannot be listed changes nothing. -/
def supply (engine : Engine σ) : Supply → Engine σ
  | .listing fileName lines =>
      { engine with store := engine.store.addPackageListing fileName lines }
  | .directory disk =>
      match engine.loadPackageListings disk with
      | .ok loaded => loaded.value
      | .error _ => engine

/-- A supply adds its listings and changes nothing else. -/
theorem supply_eq (engine : Engine σ) (next : Supply) :
    engine.supply next =
      { engine with
        store := engine.store.addPackageListings
          (next.listings engine.configuration.paths.completionDirectory) } := by
  cases next with
  | listing fileName lines => rfl
  | directory disk =>
      rw [supply, loadPackageListings, Supply.listings]
      rcases engine.store.loadPackageListings_eq disk
          engine.configuration.paths.completionDirectory with
        ⟨failed, nothing⟩ | ⟨loaded, succeeded, value⟩
      · rw [failed, nothing]
        rfl
      · rw [succeeded, ← value]
        rfl

/-! ## Creation -/

variable [Session σ]

/-- Contexts are found as the configuration says. -/
def Proper (engine : Engine σ) : Prop :=
  Buffer.Detector.ofConfiguration engine.configuration = .ok engine.detector

/-- Contexts are found with the default pattern of the word that is replaced. -/
def MatchesByDefault (engine : Engine σ) : Prop :=
  engine.Proper ∧
    engine.configuration.source.wordPattern =
      ({} : Configuration.Source).wordPattern

/-- Contexts are found with the default pattern and the default operators. -/
structure DetectsByDefault (engine : Engine σ) : Prop where
  matchesByDefault : engine.MatchesByDefault
  operators :
    engine.configuration.pipeOperators = ({} : Configuration).pipeOperators

/-- A created engine has its configuration, matches by it, and has no candidate. -/
theorem of_ofConfiguration_eq_ok
    {configuration : Configuration}
    {session : σ}
    {created : Logged (Engine σ)}
    (succeeded : ofConfiguration configuration session = .ok created) :
    created.value.configuration = configuration ∧
      created.value.Proper ∧ created.value.store = .empty := by
  unfold ofConfiguration at succeeded
  cases detected : Buffer.Detector.ofConfiguration configuration with
  | error failure => simp [detected, bind, Except.bind] at succeeded
  | ok detector =>
      simp only [detected, bind, Except.bind, pure, Except.pure,
        Except.ok.injEq] at succeeded
      subst succeeded
      unfold startSession Proper
      split
      · exact ⟨rfl, detected, rfl⟩
      · exact ⟨rfl, detected, rfl⟩

/-- The engine that a session gets with the default configuration. -/
def ofSession (session : σ) : Engine σ :=
  ((ofConfiguration {} session).toOption.get rfl).value

/--
Engines of a configuration to which exactly the given listings were added, in
any way, and whose session may have changed since.
-/
inductive Prepared (configuration : Configuration) :
    List (String × List String) → Engine σ → Prop
  | created
      {session : σ}
      {created : Logged (Engine σ)}
      (succeeded : ofConfiguration configuration session = .ok created) :
      Prepared configuration [] created.value
  | supplied
      {listings : List (String × List String)}
      {engine : Engine σ}
      (prepared : Prepared configuration listings engine)
      (next : Supply) :
      Prepared configuration
        (listings ++ next.listings configuration.paths.completionDirectory)
        (engine.supply next)
  | session
      {listings : List (String × List String)}
      {engine : Engine σ}
      (prepared : Prepared configuration listings engine)
      (next : σ) :
      Prepared configuration listings { engine with session := next }

/-- A prepared engine is a created one whose store has the listings added to it. -/
theorem Prepared.spec
    {configuration : Configuration}
    {listings : List (String × List String)}
    {engine : Engine σ}
    (prepared : Prepared configuration listings engine) :
    engine.configuration = configuration ∧
      engine.Proper ∧
        engine.store = Store.empty.addPackageListings listings := by
  induction prepared with
  | created succeeded => exact of_ofConfiguration_eq_ok succeeded
  | supplied prepared next inductionHypothesis =>
      obtain ⟨same, proper, store⟩ := inductionHypothesis
      rw [supply_eq]
      refine ⟨same, proper, ?_⟩
      rw [Store.addPackageListings_append, ← store, same]
  | session prepared next inductionHypothesis => exact inductionHypothesis

/-! ## Calls -/

/-- What happens to an engine once it has its listings. -/
inductive Call (σ : Type) where
  /-- The session changes without the engine. -/
  | session (next : σ)
  /-- The objects are taken over from a disk. -/
  | refreshObjects (disk : Disk)
  /-- The loaded packages are taken over from a disk. -/
  | refreshPackages (disk : Disk)
  /-- A completion request is answered. -/
  | complete (disk : Disk) (rows : List String) (cursor : Buffer.Cursor)

/-- The engine after a call. -/
def call (engine : Engine σ) : Call σ → Engine σ
  | .session next => { engine with session := next }
  | .refreshObjects disk => (engine.refreshSessionObjects disk).value
  | .refreshPackages disk => (engine.refreshLoadedPackages disk).value.1
  | .complete disk rows cursor => (engine.complete disk rows cursor).value.1

/-- The engine after calls, earliest first. -/
def callAll (engine : Engine σ) (calls : List (Call σ)) : Engine σ :=
  calls.foldl call engine

/-- A call keeps the configuration and what contexts are found with. -/
theorem call_keeps (engine : Engine σ) (next : Call σ) :
    (engine.call next).configuration = engine.configuration ∧
      (engine.call next).detector = engine.detector := by
  cases next with
  | session next => exact ⟨rfl, rfl⟩
  | refreshObjects disk => simp [call]
  | refreshPackages disk => simp [call]
  | complete disk rows cursor => simp [call, value_complete]

/-- A call reports to the store. -/
theorem store_call (engine : Engine σ) (next : Call σ) :
    ∃ reports,
      (engine.call next).store = engine.store.receiveAll reports := by
  cases next with
  | session next => exact ⟨[], rfl⟩
  | refreshObjects disk => exact engine.store_refreshSessionObjects disk
  | refreshPackages disk => exact engine.store_refreshLoadedPackages disk
  | complete disk rows cursor =>
      rw [call, value_complete]
      exact engine.store_answering disk _

/-- Calls keep the configuration and what contexts are found with. -/
theorem callAll_keeps (engine : Engine σ) (calls : List (Call σ)) :
    (engine.callAll calls).configuration = engine.configuration ∧
      (engine.callAll calls).detector = engine.detector := by
  induction calls generalizing engine with
  | nil => exact ⟨rfl, rfl⟩
  | cons next calls inductionHypothesis =>
      obtain ⟨configuration, detector⟩ := engine.call_keeps next
      obtain ⟨laterConfiguration, laterDetector⟩ :=
        inductionHypothesis (engine.call next)
      exact ⟨laterConfiguration.trans configuration,
        laterDetector.trans detector⟩

/-- Calls are a run of reports to the store. -/
theorem store_callAll (engine : Engine σ) (calls : List (Call σ)) :
    ∃ reports,
      (engine.callAll calls).store = engine.store.receiveAll reports := by
  induction calls generalizing engine with
  | nil => exact ⟨[], rfl⟩
  | cons next calls inductionHypothesis =>
      obtain ⟨first, firstReported⟩ := engine.store_call next
      obtain ⟨rest, restReported⟩ := inductionHypothesis (engine.call next)
      refine ⟨first ++ rest, ?_⟩
      rw [callAll, List.foldl_cons, ← callAll, restReported, firstReported,
        Store.receiveAll_append]

end Engine
end RCompletion
