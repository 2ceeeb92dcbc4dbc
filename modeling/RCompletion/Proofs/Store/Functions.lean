import RCompletion.Proofs.Text.Parts
import RCompletion.Store.Basic
import Mathlib.Data.Finset.Dedup

/-!
# The functions of packages

Which symbols are the functions of a list of packages.  With at least one name
they are those whose package contains one of the names; without any name
nothing is filtered by package and they are all functions.  Only the set of
names matters, not their order or how often each of them is given.
-/

namespace RCompletion

namespace Selection

/-- A candidate belongs to packages when its package contains one of their names. -/
theorem belongsTo_iff (packages : List String) (candidate : Candidate) :
    belongsTo packages candidate = true ↔
      ∃ package ∈ candidate.package, ∃ name ∈ packages,
        name.toList <:+: package.toList := by
  cases known : candidate.package with
  | none => simp [belongsTo, known]
  | some package => simp [belongsTo, known, Text.contains_iff]

/-- What a candidate belongs to depends on the set of names only. -/
theorem belongsTo_eq_of_same
    {left right : List String}
    (same : ∀ name, name ∈ left ↔ name ∈ right) :
    belongsTo left = belongsTo right := by
  funext candidate
  rw [Bool.eq_iff_iff, belongsTo_iff, belongsTo_iff]
  simp only [same]

/-- With at least one name, the candidates of packages are those that belong to them. -/
theorem byPackages_of_ne_nil
    {packages : List String}
    (named : packages ≠ [])
    (candidates : List Candidate) :
    byPackages candidates (some packages) =
      candidates.filter (belongsTo packages) := by
  cases packages with
  | nil => exact absurd rfl named
  | cons name names => rfl

end Selection

namespace Store

/-- A function whose package contains one of the names. -/
def IsFunctionOf (packages : List String) (symbol : Candidate) : Prop :=
  symbol.category = .function ∧
    ∃ package ∈ symbol.package, ∃ name ∈ packages,
      name.toList <:+: package.toList

instance (packages : List String) : DecidablePred (IsFunctionOf packages) :=
  fun symbol => decidable_of_iff
    (symbol.category = .function ∧
      Selection.belongsTo packages symbol = true)
    (and_congr_right fun _ => Selection.belongsTo_iff packages symbol)

/-- With at least one name, the functions of packages are selected by their package. -/
theorem functionsOf_of_ne_nil
    {packages : List String}
    (named : packages ≠ [])
    (symbols : List Candidate) :
    functionsOf symbols packages =
      symbols.filter (IsFunctionOf packages ·) := by
  rw [functionsOf, Selection.byPackages_of_ne_nil named,
    Selection.byCategory, List.filter_filter]
  apply List.filter_congr
  intro symbol _
  rw [Bool.eq_iff_iff, Bool.and_eq_true, decide_eq_true_iff,
    decide_eq_true_iff, Selection.belongsTo_iff]
  rfl

/-- Without a name, all functions count as those of the packages. -/
theorem functionsOf_nil (symbols : List Candidate) :
    functionsOf symbols [] = symbols.filter (·.category = .function) := rfl

/-- The functions of packages depend on the set of names only. -/
theorem functionsOf_eq_of_same
    {left right : List String}
    (same : ∀ name, name ∈ left ↔ name ∈ right)
    (symbols : List Candidate) :
    functionsOf symbols left = functionsOf symbols right := by
  by_cases leftNamed : left = []
  · have rightNamed : right = [] := by
      rw [List.eq_nil_iff_forall_not_mem] at leftNamed ⊢
      intro name present
      exact leftNamed name ((same name).mpr present)
    rw [leftNamed, rightNamed]
  · have rightNamed : right ≠ [] := by
      intro unnamed
      apply leftNamed
      rw [List.eq_nil_iff_forall_not_mem] at unnamed ⊢
      intro name present
      exact unnamed name ((same name).mp present)
    rw [functionsOf, functionsOf,
      Selection.byPackages_of_ne_nil leftNamed,
      Selection.byPackages_of_ne_nil rightNamed,
      Selection.belongsTo_eq_of_same same]

/-! ## Recording other names -/

/-- Other packages are loaded exactly when the sets of names differ. -/
theorem differsFrom_iff (store : Store) (packages : List String) :
    store.differsFrom packages = true ↔
      packages.toFinset ≠ store.loadedPackages.toFinset := by
  rw [differsFrom, Bool.not_eq_true', ← Bool.not_eq_true, not_iff_not,
    sameMembers_iff, Finset.ext_iff]
  simp only [List.mem_toFinset]
  exact forall_congr' fun name => Iff.comm

/-- The loaded functions are replaced when other packages are loaded. -/
theorem loadedFunctions_setLoadedPackages_of_differs
    {store : Store}
    {packages : List String}
    (differs : store.differsFrom packages = true) :
    (store.setLoadedPackages packages).loadedFunctions =
      functionsOf store.packageSymbols packages := by
  simp [setLoadedPackages, differs]

/-- The loaded functions are kept when the same packages are loaded. -/
theorem loadedFunctions_setLoadedPackages_of_same
    {store : Store}
    {packages : List String}
    (same : store.differsFrom packages = false) :
    (store.setLoadedPackages packages).loadedFunctions =
      store.loadedFunctions := by
  simp [setLoadedPackages, same]

end Store
end RCompletion
