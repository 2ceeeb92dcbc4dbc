import RCompletion.Proofs.Store.Reports
import Mathlib.Data.Finset.Insert
import Mathlib.Data.List.Induction

/-!
# Stores without a loaded package

A store starts with no loaded package and no loaded function.  When the last
loaded package goes, the store recomputes its functions for an empty list of
names, which selects all of them; without a change of the set of names it keeps
what it has.  Hence the loaded functions of a store without a loaded package
are the functions that were known when the packages went, if any were loaded.
-/

namespace RCompletion
namespace Store

/-- A change of a store. -/
inductive Change where
  /-- A listing of an installed package is added. -/
  | listing (fileName : String) (lines : List String)
  /-- The session reports. -/
  | report (content : Report)
deriving Repr, DecidableEq

/-- Whether a change records at least one loaded package. -/
def Change.loads : Change → Bool
  | .report (.packages names) => !names.isEmpty
  | _ => false

/-- The store after a change. -/
def change (store : Store) : Change → Store
  | .listing fileName lines => store.addPackageListing fileName lines
  | .report content => store.receive content

/-- The store after changes, earliest first. -/
def changeAll (store : Store) (changes : List Change) : Store :=
  changes.foldl change store

@[simp] theorem changeAll_cons
    (store : Store)
    (next : Change)
    (changes : List Change) :
    store.changeAll (next :: changes) =
      (store.change next).changeAll changes := rfl

theorem changeAll_append (store : Store) (first second : List Change) :
    store.changeAll (first ++ second) =
      (store.changeAll first).changeAll second :=
  List.foldl_append

/-! ## One change -/

/-- Replacing any loaded package by none makes all functions loaded ones. -/
theorem loadedFunctions_setLoadedPackages_nil
    {store : Store}
    (loaded : store.loadedPackages ≠ []) :
    (store.setLoadedPackages []).loadedFunctions =
      store.packageSymbols.filter (·.category = .function) := by
  have differs : store.differsFrom [] = true := by
    rw [differsFrom_iff, List.toFinset_nil]
    exact fun same => loaded (List.toFinset_eq_empty_iff _ |>.mp same.symm)
  rw [loadedFunctions_setLoadedPackages_of_differs differs, functionsOf_nil]

/-- A change that loads nothing leaves a store without loaded packages as it is. -/
theorem change_of_not_loads
    {store : Store}
    {next : Change}
    (nothing : store.loadedPackages = [])
    (idle : next.loads = false) :
    (store.change next).loadedPackages = [] ∧
      (store.change next).loadedFunctions = store.loadedFunctions := by
  match next with
  | .listing fileName lines => exact ⟨nothing, rfl⟩
  | .report (.objects lines) => exact ⟨nothing, rfl⟩
  | .report (.packages names) =>
      have unnamed : names = [] := by simpa [Change.loads] using idle
      subst unnamed
      refine ⟨rfl, loadedFunctions_setLoadedPackages_of_same ?_⟩
      rw [differsFrom, nothing]
      rfl

/-- A change after which no package is loaded does not load any. -/
theorem loads_eq_false_of_change
    {store : Store}
    {next : Change}
    (nothing : (store.change next).loadedPackages = []) :
    next.loads = false := by
  match next with
  | .listing fileName lines => rfl
  | .report (.objects lines) => rfl
  | .report (.packages names) =>
      have unnamed : names = [] := nothing
      simp [Change.loads, unnamed]

/-- Only the report of an empty list makes the loaded packages go. -/
theorem eq_packages_nil_of_change
    {store : Store}
    {next : Change}
    (loaded : store.loadedPackages ≠ [])
    (nothing : (store.change next).loadedPackages = []) :
    next = .report (.packages []) := by
  match next with
  | .listing fileName lines => exact absurd nothing loaded
  | .report (.objects lines) => exact absurd nothing loaded
  | .report (.packages names) =>
      have unnamed : names = [] := nothing
      rw [unnamed]

/-! ## Runs of changes -/

/-- Changes that load nothing leave a store without loaded packages as it is. -/
theorem changeAll_of_not_loads
    {store : Store}
    {changes : List Change}
    (nothing : store.loadedPackages = [])
    (idle : ∀ next ∈ changes, next.loads = false) :
    (store.changeAll changes).loadedFunctions = store.loadedFunctions := by
  induction changes generalizing store with
  | nil => rfl
  | cons next changes inductionHypothesis =>
      rw [List.forall_mem_cons] at idle
      obtain ⟨stillNothing, kept⟩ := change_of_not_loads nothing idle.1
      rw [changeAll_cons, inductionHypothesis stillNothing idle.2, kept]

/--
The loaded packages go right after the given first part of some changes, and
none is loaded by the changes after that.
-/
def EmptiedAfter (before changes : List Change) : Prop :=
  (empty.changeAll before).loadedPackages ≠ [] ∧
    ∃ after, changes = before ++ .report (.packages []) :: after ∧
      ∀ next ∈ after, next.loads = false

/-- Once the loaded packages are gone, all functions known at that time stay loaded. -/
theorem EmptiedAfter.loadedFunctions
    {before changes : List Change}
    (emptied : EmptiedAfter before changes) :
    (empty.changeAll changes).loadedFunctions =
      (empty.changeAll before).packageSymbols.filter
        (·.category = .function) := by
  obtain ⟨loaded, after, rfl, idle⟩ := emptied
  rw [changeAll_append, changeAll_cons]
  calc
    (((empty.changeAll before).change
        (.report (.packages []))).changeAll after).loadedFunctions =
        ((empty.changeAll before).setLoadedPackages []).loadedFunctions :=
      changeAll_of_not_loads rfl idle
    _ = (empty.changeAll before).packageSymbols.filter
        (·.category = .function) :=
      loadedFunctions_setLoadedPackages_nil loaded

/-- If no package is loaded after some changes, none ever was or the last ones went. -/
theorem not_loads_or_emptiedAfter
    (changes : List Change)
    (nothing : (empty.changeAll changes).loadedPackages = []) :
    (∀ next ∈ changes, next.loads = false) ∨
      ∃ before, EmptiedAfter before changes := by
  induction changes using List.reverseRecOn with
  | nil => exact .inl (by simp)
  | append_singleton changes next inductionHypothesis =>
      rw [changeAll_append] at nothing
      have idleNext : next.loads = false := loads_eq_false_of_change nothing
      by_cases earlier : (empty.changeAll changes).loadedPackages = []
      · -- nothing was loaded just before: the last change continues that stretch
        rcases inductionHypothesis earlier with
          idle | ⟨before, loaded, after, rfl, idle⟩
        · left
          intro member present
          rcases List.mem_append.mp present with old | new
          · exact idle member old
          · rw [List.mem_singleton.mp new]
            exact idleNext
        · right
          refine ⟨before, loaded, after ++ [next], by simp, ?_⟩
          intro member present
          rcases List.mem_append.mp present with old | new
          · exact idle member old
          · rw [List.mem_singleton.mp new]
            exact idleNext
      · right
        have emptying := eq_packages_nil_of_change earlier nothing
        exact ⟨changes, earlier, [], by rw [emptying], by simp⟩

/--
After any changes that leave no package loaded, no function is a loaded one
exactly when no function was known at the time the last loaded packages went;
the functions known then are the loaded ones.
-/
theorem loadedFunctions_eq_nil_iff_of_nothing_loaded
    (changes : List Change)
    (nothing : (empty.changeAll changes).loadedPackages = []) :
    ((empty.changeAll changes).loadedFunctions = [] ↔
      ∀ before, EmptiedAfter before changes →
        ∀ symbol ∈ (empty.changeAll before).packageSymbols,
          symbol.category ≠ .function) ∧
      ∀ before, EmptiedAfter before changes →
        (empty.changeAll changes).loadedFunctions =
          (empty.changeAll before).packageSymbols.filter
            (·.category = .function) := by
  refine ⟨⟨?_, ?_⟩, fun before emptied => emptied.loadedFunctions⟩
  · intro noFunctions before emptied symbol present isFunction
    rw [emptied.loadedFunctions, List.filter_eq_nil_iff] at noFunctions
    exact noFunctions symbol present (by simpa using isFunction)
  · intro noneKnown
    rcases not_loads_or_emptiedAfter changes nothing with
      idle | ⟨before, emptied⟩
    · exact changeAll_of_not_loads rfl idle
    · rw [emptied.loadedFunctions, List.filter_eq_nil_iff]
      intro symbol present
      simpa using noneKnown before emptied symbol present

/-- A package with one function is listed and loaded. -/
def baseLoaded : List Change := [
  .listing "omnils_base_4.4.0" ["mean\x06function\x06\x06base\x06x\t..."],
  .report (.packages ["base"])]

/-- The package goes, and listings of other packages and of objects follow. -/
def baseGone : List Change :=
  baseLoaded ++ .report (.packages []) :: [
    .listing "omnils_stats_4.4.0" ["sd\x06function\x06\x06stats\x06x"],
    .report (.objects ["x\x06numeric"])]

/-- Of two known functions, the one known when the package went is a loaded one. -/
theorem loadedFunctions_baseGone :
    (empty.changeAll baseGone).loadedPackages = [] ∧
      EmptiedAfter baseLoaded baseGone ∧
      (empty.changeAll baseGone).loadedFunctions =
        (empty.changeAll baseLoaded).packageSymbols.filter
          (·.category = .function) ∧
      (empty.changeAll baseGone).loadedFunctions.map (·.label) = ["mean"] := by
  have emptied : EmptiedAfter baseLoaded baseGone :=
    ⟨by decide, _, rfl, by decide⟩
  exact ⟨by decide, emptied,
    (loadedFunctions_eq_nil_iff_of_nothing_loaded baseGone (by decide)).2
      baseLoaded emptied,
    by decide⟩

/-- A store without a loaded package can have a loaded function. -/
theorem not_forall_loadedFunctions_eq_nil :
    ¬∀ changes, (empty.changeAll changes).loadedPackages = [] →
      (empty.changeAll changes).loadedFunctions = [] := by
  intro noFunctions
  have none := noFunctions (baseLoaded ++ [.report (.packages [])]) (by decide)
  exact absurd none (by decide)

end Store
end RCompletion
