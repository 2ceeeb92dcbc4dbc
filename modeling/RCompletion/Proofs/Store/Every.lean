import RCompletion.Proofs.Store.Reports

/-!
# Properties of every candidate

All candidates of a store come from records of listings.  A property that every
candidate of a record has is therefore one of every candidate in a store,
whatever listings were added to it and whatever the session reports.
-/

namespace RCompletion

variable {property : Candidate → Prop}

namespace Listing

/-- Every candidate that a record describes has a property. -/
def Gives (property : Candidate → Prop) : Prop :=
  ∀ (record : Record) (candidate : Candidate),
    record.candidate? = some candidate → property candidate

theorem Gives.of_mem_candidates
    (gives : Gives property)
    (lines : List String) :
    ∀ candidate ∈ candidates lines, property candidate := by
  intro candidate listed
  obtain ⟨line, -, described⟩ := List.mem_filterMap.mp listed
  exact gives (Record.ofLine line) candidate described

theorem Gives.of_packageCandidate?
    (gives : Gives property)
    {name : String}
    {candidate : Candidate}
    (described : packageCandidate? name = some candidate) :
    property candidate :=
  gives _ candidate described

end Listing

namespace Store

/-- Every candidate of a store has a property. -/
structure Every (property : Candidate → Prop) (store : Store) : Prop where
  installedPackages :
    ∀ candidate ∈ store.installedPackages, property candidate
  packageSymbols :
    ∀ candidate ∈ store.packageSymbols, property candidate
  loadedFunctions :
    ∀ candidate ∈ store.loadedFunctions, property candidate
  sessionObjects :
    ∀ candidate ∈ store.sessionObjects, property candidate

theorem every_empty : Every property empty := by
  constructor
  all_goals
    intro candidate present
    exact absurd present List.not_mem_nil

/-- The functions of packages are among the symbols. -/
theorem mem_of_mem_functionsOf
    {symbols : List Candidate}
    {packages : List String}
    {candidate : Candidate}
    (selected : candidate ∈ functionsOf symbols packages) :
    candidate ∈ symbols := by
  have ofPackages := List.mem_of_mem_filter selected
  cases packages with
  | nil => exact ofPackages
  | cons name names => exact List.mem_of_mem_filter ofPackages

/-- A listing adds candidates of its records only. -/
theorem Every.addPackageListing
    {store : Store}
    (every : store.Every property)
    (gives : Listing.Gives property)
    (fileName : String)
    (lines : List String) :
    (store.addPackageListing fileName lines).Every property where
  installedPackages := by
    intro candidate present
    rcases List.mem_append.mp present with old | described
    · exact every.installedPackages candidate old
    · rw [Option.mem_toList] at described
      obtain ⟨name, -, named⟩ := Option.bind_eq_some_iff.mp described
      exact gives.of_packageCandidate? named
  packageSymbols := by
    intro candidate present
    rcases List.mem_append.mp present with old | listed
    · exact every.packageSymbols candidate old
    · exact gives.of_mem_candidates lines candidate listed
  loadedFunctions := every.loadedFunctions
  sessionObjects := every.sessionObjects

theorem Every.addPackageListings
    {store : Store}
    (every : store.Every property)
    (gives : Listing.Gives property)
    (listings : List (String × List String)) :
    (store.addPackageListings listings).Every property := by
  induction listings generalizing store with
  | nil => exact every
  | cons listing listings inductionHypothesis =>
      exact inductionHypothesis
        (every.addPackageListing gives listing.1 listing.2)

/-- A report selects among the symbols or brings candidates of its records. -/
theorem Every.receive
    {store : Store}
    (every : store.Every property)
    (gives : Listing.Gives property)
    (report : Report) :
    (store.receive report).Every property := by
  cases report with
  | objects lines =>
      exact { every with
        sessionObjects := gives.of_mem_candidates lines }
  | packages names =>
      refine { every with loadedFunctions := ?_ }
      intro candidate present
      cases differs : store.differsFrom names with
      | true =>
          rw [Store.receive, loadedFunctions_setLoadedPackages_of_differs
            differs] at present
          exact every.packageSymbols candidate
            (mem_of_mem_functionsOf present)
      | false =>
          rw [Store.receive, loadedFunctions_setLoadedPackages_of_same
            differs] at present
          exact every.loadedFunctions candidate present

theorem Every.receiveAll
    {store : Store}
    (every : store.Every property)
    (gives : Listing.Gives property)
    (reports : List Report) :
    (store.receiveAll reports).Every property := by
  induction reports generalizing store with
  | nil => exact every
  | cons report reports inductionHypothesis =>
      exact inductionHypothesis (every.receive gives report)

end Store
end RCompletion
