import RCompletion.Proofs.Store.Loaded

/-!
# Installed packages

A store has one installed package for every listing that was added to it and
whose name tells a package, in the order in which they were added.  The packages
are therefore those that the names tell, and each of them is there once exactly
when no two of the listings tell the same package.
-/

namespace RCompletion
namespace Store

/-! ## Additions -/

/-- What adds listings to a store. -/
inductive Addition where
  /-- A listing is added, with its name and its lines. -/
  | listing (name : String) (lines : List String)
  /-- A directory is loaded from a disk. -/
  | directory (disk : Disk) (path : Path)

/-- The store after an addition. -/
def add (store : Store) : Addition → Store
  | .listing name lines => store.addPackageListing name lines
  | .directory disk path => store.afterLoading disk path

/-- The store after additions, earliest first. -/
def addAll (store : Store) (additions : List Addition) : Store :=
  additions.foldl add store

@[simp] theorem addAll_cons
    (store : Store)
    (addition : Addition)
    (additions : List Addition) :
    store.addAll (addition :: additions) =
      (store.add addition).addAll additions := rfl

/-- The names of the listings that an addition adds, in their order.  Of a
directory these are the listings that are texts, each of them once. -/
inductive Addition.Adds : Addition → List String → Prop
  | listing (name : String) (lines : List String) :
      Adds (.listing name lines) [name]
  | directory
      {disk : Disk}
      {path : Path}
      {names : List String}
      (ordered : names.Pairwise Precedes)
      (mem_iff : ∀ name, name ∈ names ↔
        ∃ text : String, HoldsListing disk path name text.toUTF8) :
      Adds (.directory disk path) names

/-! ## Listings of an addition -/

/-- The listings that an addition adds, each with its name and its lines. -/
def Addition.listings : Addition → List (String × List String)
  | .listing name lines => [(name, lines)]
  | .directory disk path => listingsIn disk path

theorem add_eq_addPackageListings (store : Store) (addition : Addition) :
    store.add addition = store.addPackageListings addition.listings := by
  cases addition with
  | listing name lines => rfl
  | directory disk path =>
      rw [add, afterLoading, Addition.listings]
      obtain ⟨failed, nothing⟩ | ⟨loaded, succeeded, value⟩ :=
        loadPackageListings_eq store disk path
      · rw [failed, nothing]
        rfl
      · rw [succeeded]
        exact value

/-- Nothing is held where nothing can be listed. -/
theorem not_holdsListing_of_list?_eq_none
    {disk : Disk}
    {path : Path}
    (unlistable : disk.list? path = none)
    (name : String)
    (contents : ByteArray) :
    ¬ HoldsListing disk path name contents := by
  rintro ⟨-, location, walked, found, -⟩
  have nothing := Disk.list?_eq_none_iff.mp unlistable location walked
  rw [nothing] at found
  cases found

theorem map_listingsIn
    {disk : Disk}
    {path : Path}
    {contents : List (FileName × Node)}
    (listed : disk.list? path = some contents) :
    (listingsIn disk path).map (·.1) =
      (listingTexts disk path (listingNames (fileNames contents))).map
        (·.1) := by
  rw [listingsIn, listed]
  simp only [readableListings_eq, List.map_map, Function.comp_def]

/-- A directory of a well-formed disk adds the listings that it holds. -/
theorem Addition.adds_listingsIn
    {disk : Disk}
    (wellFormed : disk.WellFormed)
    (path : Path) :
    Adds (.directory disk path) ((listingsIn disk path).map (·.1)) := by
  cases listed : disk.list? path with
  | none =>
      rw [listingsIn, listed]
      refine .directory .nil fun name => iff_of_false List.not_mem_nil ?_
      rintro ⟨text, holds⟩
      exact not_holdsListing_of_list?_eq_none listed name _ holds
  | some contents =>
      have lists := lists_of_list? wellFormed listed
      rw [map_listingsIn listed]
      refine .directory lists.listings_ordered fun name => ?_
      rw [List.mem_map]
      constructor
      · rintro ⟨⟨_, text⟩, present, rfl⟩
        exact ⟨text, (lists.mem_listings_iff _ _).mp present⟩
      · rintro ⟨text, holds⟩
        exact ⟨_, (lists.mem_listings_iff _ _).mpr holds, rfl⟩

/-! ## Packages of additions -/

theorem installedPackages_add (store : Store) (addition : Addition) :
    (store.add addition).installedPackages =
      store.installedPackages ++
        ((addition.listings.map (·.1)).filterMap
          Listing.packageOfName?).map installedPackage := by
  rw [add_eq_addPackageListings, installedPackages_addPackageListings,
    List.filterMap_map]
  rfl

/-- Additions put the packages of their names after those of the store. -/
theorem installedPackages_addAll
    (store : Store)
    (additions : List Addition) :
    (store.addAll additions).installedPackages =
      store.installedPackages ++
        ((additions.map fun addition =>
          addition.listings.map (·.1)).flatten.filterMap
            Listing.packageOfName?).map installedPackage := by
  induction additions generalizing store with
  | nil => simp [addAll]
  | cons addition additions inductionHypothesis =>
      rw [addAll_cons, inductionHypothesis, installedPackages_add,
        List.map_cons, List.flatten_cons, List.filterMap_append,
        List.map_append, List.append_assoc]

theorem map_label_installedPackage (packages : List String) :
    (packages.map installedPackage).map (·.label) = packages := by
  rw [List.map_map]
  exact List.map_id packages

/--
After any additions to the empty store, the installed packages are those that
the names of the added listings tell, one for each of these names and in their
order.  Their labels are distinct exactly when no two of the listings tell the
same package.
-/
theorem labels_addAll_nodup_iff
    {additions : List Addition}
    (wellFormed : ∀ disk path,
      Addition.directory disk path ∈ additions → disk.WellFormed) :
    let store := empty.addAll additions
    let labels := store.installedPackages.map (·.label)
    ∃ names, List.Forall₂ Addition.Adds additions names ∧
      store.installedPackages =
        (names.flatten.filterMap Listing.packageOfName?).map
          installedPackage ∧
      (∀ package, package ∈ labels ↔
        ∃ name ∈ names.flatten, Listing.TellsPackage name package) ∧
      (labels.Nodup ↔
        names.flatten.Pairwise fun name other => ∀ package,
          ¬(Listing.TellsPackage name package ∧
            Listing.TellsPackage other package)) := by
  intro store labels
  refine ⟨additions.map fun addition => addition.listings.map (·.1), ?adds,
    ?packages, ?members, ?distinct⟩
  case adds =>
    rw [List.forall₂_map_right_iff, List.forall₂_same]
    intro addition present
    cases addition with
    | listing name lines => exact .listing name lines
    | directory disk path =>
        exact Addition.adds_listingsIn (wellFormed disk path present) path
  case packages => exact installedPackages_addAll empty additions
  all_goals
    have told : labels =
        (additions.map fun addition =>
          addition.listings.map (·.1)).flatten.filterMap
            Listing.packageOfName? := by
      rw [← map_label_installedPackage (List.filterMap _ _)]
      exact congrArg _ (installedPackages_addAll empty additions)
    rw [told]
  case members =>
    intro package
    simp only [List.mem_filterMap, Listing.packageOfName?_eq_some_iff]
  case distinct =>
    rw [List.Nodup, List.pairwise_filterMap]
    simp only [Listing.packageOfName?_eq_some_iff]
    refine List.Pairwise.iff ?_
    intro name other
    constructor
    · rintro differ package ⟨told, toldAgain⟩
      exact differ package told package toldAgain rfl
    · rintro differ package told another toldAgain rfl
      exact differ package ⟨told, toldAgain⟩

/-- A directory with a listing is loaded twice, with another listing between. -/
theorem labels_addAll_reloaded :
    let disk := Disk.empty.insertFile ⟨"in/omnils_b_1"⟩ "".toUTF8
    let additions := [
      Addition.directory disk ⟨"in"⟩, .listing "omnils_c_2" ["y\x06numeric"],
      .directory disk ⟨"in"⟩]
    let labels := (empty.addAll additions).installedPackages.map (·.label)
    (∀ held path, Addition.directory held path ∈ additions →
      held.WellFormed) ∧
    ∃ names, List.Forall₂ Addition.Adds additions names ∧
      (empty.addAll additions).installedPackages =
        (names.flatten.filterMap Listing.packageOfName?).map
          installedPackage ∧
      labels = ["b", "c", "b"] ∧
      ¬ names.flatten.Pairwise fun name other => ∀ package,
        ¬(Listing.TellsPackage name package ∧
          Listing.TellsPackage other package) := by
  intro disk additions labels
  have wellFormed : ∀ held path, Addition.directory held path ∈ additions →
      held.WellFormed := by
    intro held path present
    have same : held = disk ∧ path = ⟨"in"⟩ := by
      simpa [additions] using present
    rw [same.1]
    exact Disk.wellFormed_empty.insertFile _ _
  have told : labels = ["b", "c", "b"] := by decide +kernel
  obtain ⟨names, added, packages, -, distinct⟩ :=
    labels_addAll_nodup_iff wellFormed
  refine ⟨wellFormed, names, added, packages, told, ?_⟩
  rw [← distinct]
  change ¬ labels.Nodup
  rw [told]
  decide

/-- Two versions of a package are two installed packages of one name. -/
theorem not_forall_nodup_labels :
    ¬ ∀ additions,
      ((empty.addAll additions).installedPackages.map (·.label)).Nodup := by
  intro distinct
  have twice := distinct
    [.listing "omnils_base_4.3.1" [], .listing "omnils_base_4.4.0" []]
  exact absurd twice (by decide)

end Store
end RCompletion
