import RCompletion.Proofs.Store.Functions

/-!
# Stores that follow a session

A session reports its loaded packages and its objects, any number of times and
in any order.  The names of the loaded packages are replaced by every report,
the loaded functions only when the set of names changes.  The two still fit
together after every run of reports, as long as some package is loaded.
-/

namespace RCompletion
namespace Store

/-- What a session tells a store. -/
inductive Report where
  /-- The packages that are loaded. -/
  | packages (names : List String)
  /-- The listing of the global environment. -/
  | objects (lines : List String)
deriving Repr, DecidableEq

/-- The store after a report. -/
def receive (store : Store) : Report → Store
  | .packages names => store.setLoadedPackages names
  | .objects lines => store.setSessionObjects lines

/-- The store after reports, earliest first. -/
def receiveAll (store : Store) (reports : List Report) : Store :=
  reports.foldl receive store

/-- A store with the symbols of listings, each given by its file name and lines. -/
def addPackageListings
    (store : Store)
    (listings : List (String × List String)) : Store :=
  listings.foldl
    (fun store listing => store.addPackageListing listing.1 listing.2) store

@[simp] theorem receiveAll_cons
    (store : Store)
    (report : Report)
    (reports : List Report) :
    store.receiveAll (report :: reports) =
      (store.receive report).receiveAll reports := rfl

theorem receiveAll_append
    (store : Store)
    (first second : List Report) :
    store.receiveAll (first ++ second) =
      (store.receiveAll first).receiveAll second :=
  List.foldl_append

@[simp] theorem addPackageListings_cons
    (store : Store)
    (listing : String × List String)
    (listings : List (String × List String)) :
    store.addPackageListings (listing :: listings) =
      (store.addPackageListing listing.1 listing.2).addPackageListings
        listings := rfl

theorem addPackageListings_append
    (store : Store)
    (first second : List (String × List String)) :
    store.addPackageListings (first ++ second) =
      (store.addPackageListings first).addPackageListings second :=
  List.foldl_append

/-- Listings keep a part of a store that no listing changes. -/
theorem addPackageListings_keeps
    {part : Store → α}
    (keeps : ∀ (store : Store) fileName lines,
      part (store.addPackageListing fileName lines) = part store)
    (store : Store)
    (listings : List (String × List String)) :
    part (store.addPackageListings listings) = part store := by
  induction listings generalizing store with
  | nil => rfl
  | cons listing listings inductionHypothesis =>
      rw [addPackageListings_cons, inductionHypothesis, keeps]

/-- Listings of installed packages load no package. -/
@[simp] theorem loadedPackages_addPackageListings
    (store : Store)
    (listings : List (String × List String)) :
    (store.addPackageListings listings).loadedPackages =
      store.loadedPackages :=
  addPackageListings_keeps loadedPackages_addPackageListing store listings

/-! ## What a report leaves alone -/

@[simp] theorem packageSymbols_receive (store : Store) (report : Report) :
    (store.receive report).packageSymbols = store.packageSymbols := by
  cases report <;> rfl

@[simp] theorem installedPackages_receive (store : Store) (report : Report) :
    (store.receive report).installedPackages = store.installedPackages := by
  cases report <;> rfl

@[simp] theorem packageSymbols_receiveAll
    (store : Store)
    (reports : List Report) :
    (store.receiveAll reports).packageSymbols = store.packageSymbols := by
  induction reports generalizing store with
  | nil => rfl
  | cons report reports inductionHypothesis =>
      rw [receiveAll_cons, inductionHypothesis, packageSymbols_receive]

@[simp] theorem installedPackages_receiveAll
    (store : Store)
    (reports : List Report) :
    (store.receiveAll reports).installedPackages =
      store.installedPackages := by
  induction reports generalizing store with
  | nil => rfl
  | cons report reports inductionHypothesis =>
      rw [receiveAll_cons, inductionHypothesis, installedPackages_receive]

/-! ## The invariant -/

/-- If any package is loaded, the loaded functions are those of the loaded packages. -/
def Coherent (store : Store) : Prop :=
  store.loadedPackages ≠ [] →
    store.loadedFunctions =
      functionsOf store.packageSymbols store.loadedPackages

/-- A store that knows of no loaded package is coherent. -/
theorem coherent_of_loadedPackages_eq_nil
    {store : Store}
    (nothing : store.loadedPackages = []) :
    store.Coherent :=
  fun named => absurd nothing named

/-- A report of loaded packages keeps a store coherent. -/
theorem Coherent.setLoadedPackages
    {store : Store}
    (coherent : store.Coherent)
    (packages : List String) :
    (store.setLoadedPackages packages).Coherent := by
  intro named
  rw [loadedPackages_setLoadedPackages] at named ⊢
  rw [packageSymbols_setLoadedPackages]
  cases differs : store.differsFrom packages with
  | true => exact loadedFunctions_setLoadedPackages_of_differs differs
  | false =>
      -- the names are the recorded ones up to order and repetition
      have same : ∀ name, name ∈ store.loadedPackages ↔ name ∈ packages :=
        (sameMembers_iff _ _).mp (by simpa [differsFrom] using differs)
      have recorded : store.loadedPackages ≠ [] := by
        intro nothing
        obtain ⟨name, present⟩ := List.exists_mem_of_ne_nil packages named
        simpa [nothing] using (same name).mpr present
      rw [loadedFunctions_setLoadedPackages_of_same differs,
        coherent recorded, functionsOf_eq_of_same same]

/-- A report keeps a store coherent. -/
theorem Coherent.receive
    {store : Store}
    (coherent : store.Coherent)
    (report : Report) :
    (store.receive report).Coherent := by
  cases report with
  | packages names => exact coherent.setLoadedPackages names
  | objects lines => exact coherent

/-- Any run of reports keeps a store coherent. -/
theorem Coherent.receiveAll
    {store : Store}
    (coherent : store.Coherent)
    (reports : List Report) :
    (store.receiveAll reports).Coherent := by
  induction reports generalizing store with
  | nil => exact coherent
  | cons report reports inductionHypothesis =>
      exact inductionHypothesis (coherent.receive report)

/--
After any listings and any run of reports, if some package is loaded then the
loaded functions are the symbols that are functions of the loaded packages, in
their order and as often as they are listed.  Names count as other packages
exactly when their set is not the recorded one.
-/
theorem loadedFunctions_receiveAll_and_differsFrom_iff
    (listings : List (String × List String))
    (reports : List Report) :
    let store := (empty.addPackageListings listings).receiveAll reports
    (store.loadedPackages ≠ [] →
      store.loadedFunctions =
        store.packageSymbols.filter (IsFunctionOf store.loadedPackages ·)) ∧
      ∀ packages,
        store.differsFrom packages = true ↔
          packages.toFinset ≠ store.loadedPackages.toFinset := by
  intro store
  have coherent : store.Coherent :=
    (coherent_of_loadedPackages_eq_nil
      (loadedPackages_addPackageListings empty listings)).receiveAll reports
  refine ⟨fun named => ?_, differsFrom_iff store⟩
  rw [coherent named, functionsOf_of_ne_nil named]

/--
Two packages stay loaded after reports that pass through the empty list and end
with a reordered one, and their functions are the loaded ones.
-/
theorem loadedFunctions_after_reordered_reports :
    let listings := [
      ("omnils_base_4.4.0",
        ["mean\x06function\x06\x06base\x06x\t...",
          "letters\x06character\x06\x06base"]),
      ("omnils_dplyr_1.1.4", ["filter\x06function\x06\x06dplyr\x06.data"])]
    let reports := [
      Report.packages ["base"], .packages [], .packages ["dplyr", "base"],
      .objects ["x\x06numeric"], .packages ["base", "dplyr", "base"]]
    let store := (empty.addPackageListings listings).receiveAll reports
    store.loadedPackages ≠ [] ∧
      store.loadedFunctions =
        store.packageSymbols.filter (IsFunctionOf store.loadedPackages ·) ∧
      store.loadedFunctions.map (·.label) = ["mean", "filter"] :=
  ⟨by decide,
    (loadedFunctions_receiveAll_and_differsFrom_iff _ _).1 (by decide),
    by decide⟩

end Store
end RCompletion
