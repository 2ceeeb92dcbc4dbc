import RCompletion.Proofs.Store.Directory
import RCompletion.Proofs.Store.Names

/-!
# Loading a directory

Loading a completion directory adds its listings in the order of their names,
gives a notice for each one that is no text, and touches nothing else; or it
fails and the store stays as it was.  Neither the order in which a disk gives
the entries of the directory nor the blanks between the records of the listings
make a difference.
-/

namespace RCompletion

namespace Listing

/-! ## Packages of names -/

/-- A package stands between the first two underscores of a name. -/
def TellsPackage (name package : String) : Prop :=
  ∃ start stop,
    name = start ++ "_" ++ package ++ "_" ++ stop ∧
      '_' ∉ start.toList ∧ '_' ∉ package.toList ∧ package ≠ ""

/-- The fields of a name that tells a package. -/
theorem fields_of_tellsPackage
    {start package : String}
    (startAbsent : '_' ∉ start.toList)
    (packageAbsent : '_' ∉ package.toList)
    (stop : String) :
    Text.fields '_' (start ++ "_" ++ package ++ "_" ++ stop) =
      start :: package :: Text.fields '_' stop := by
  have underscore : "_".toList = ['_'] := by decide
  simp only [Text.fields, String.toList_append, underscore,
    List.append_assoc, List.cons_append, List.nil_append]
  rw [Text.splitAt_append_separator startAbsent,
    Text.splitAt_append_separator packageAbsent, List.map_cons,
    List.map_cons, String.ofList_toList, String.ofList_toList]

/-- The package of a name is the one that the name tells. -/
theorem packageOfName?_eq_some_iff {name package : String} :
    packageOfName? name = some package ↔ TellsPackage name package := by
  constructor
  · intro told
    unfold packageOfName? at told
    split at told
    case h_2 => cases told
    case h_1 start second stop rest fields =>
      split at told
      case isTrue => cases told
      case isFalse filled =>
        cases told
        refine ⟨start, Text.join "_" (stop :: rest), ?_, ?_, ?_, filled⟩
        · have whole : Text.join "_" (start :: package :: stop :: rest) = name :=
            fields ▸ Text.join_fields '_' name
          simp only [← whole, Text.join_cons_cons, String.append_assoc]
        · exact Text.not_mem_of_mem_fields (by rw [fields]; simp)
        · exact Text.not_mem_of_mem_fields (by rw [fields]; simp)
  · rintro ⟨start, stop, rfl, startAbsent, packageAbsent, filled⟩
    rw [packageOfName?, fields_of_tellsPackage startAbsent packageAbsent]
    cases parts : Text.fields '_' stop with
    | nil =>
        rw [Text.fields, List.map_eq_nil_iff] at parts
        exact absurd parts (Text.splitAt_ne_nil '_' stop.toList)
    | cons field fields => exact if_neg filled

end Listing

namespace Store

/-! ## What listings add -/

/-- The candidate of an installed package. -/
def installedPackage (package : String) : Candidate :=
  { Candidate.plain package .package with
    snippet := some (package ++ "::$1") }

theorem installedPackages_addPackageListing
    (store : Store)
    (name : String)
    (lines : List String) :
    (store.addPackageListing name lines).installedPackages =
      store.installedPackages ++
        ((Listing.packageOfName? name).map installedPackage).toList := by
  unfold addPackageListing
  cases Listing.packageOfName? name with
  | none => rfl
  | some package =>
      simp [Listing.packageCandidate?_eq, installedPackage]

/-- Every listing whose name tells a package adds the candidate of the package. -/
theorem installedPackages_addPackageListings
    (store : Store)
    (listings : List (String × List String)) :
    (store.addPackageListings listings).installedPackages =
      store.installedPackages ++
        (listings.filterMap fun listing =>
          Listing.packageOfName? listing.1).map installedPackage := by
  induction listings generalizing store with
  | nil => simp [addPackageListings]
  | cons listing listings inductionHypothesis =>
      rw [addPackageListings_cons, inductionHypothesis,
        installedPackages_addPackageListing, List.filterMap_cons]
      cases Listing.packageOfName? listing.1 <;> simp

@[simp] theorem loadedFunctions_addPackageListings
    (store : Store)
    (listings : List (String × List String)) :
    (store.addPackageListings listings).loadedFunctions =
      store.loadedFunctions :=
  addPackageListings_keeps loadedFunctions_addPackageListing store listings

@[simp] theorem sessionObjects_addPackageListings
    (store : Store)
    (listings : List (String × List String)) :
    (store.addPackageListings listings).sessionObjects =
      store.sessionObjects :=
  addPackageListings_keeps (fun _ _ _ => rfl) store listings

/-- A listing adds what its lines describe, however they are written. -/
theorem addPackageListing_congr
    (store : Store)
    (name : String)
    {lines others : List String}
    (same : Listing.candidates lines = Listing.candidates others) :
    store.addPackageListing name lines =
      store.addPackageListing name others := by
  rw [addPackageListing, addPackageListing, same]

/-! ## Listings that are read, and listings that are not -/

variable {disk other : Disk} {directory : Path}

/-- The listings that are texts, out of those with the given names. -/
def listingTexts (disk : Disk) (directory : Path) (names : List String) :
    List (String × String) :=
  names.filterMap fun name =>
    (disk.readText? (directory.join name)).map (name, ·)

/-- The listings that are no texts, out of those with the given names. -/
def skippedNames (disk : Disk) (directory : Path) (names : List String) :
    List String :=
  names.filter fun name => (disk.readText? (directory.join name)).isNone

theorem mem_listingTexts_iff {names : List String} {name text : String} :
    (name, text) ∈ listingTexts disk directory names ↔
      name ∈ names ∧ disk.readText? (directory.join name) = some text := by
  simp [listingTexts]

theorem mem_skippedNames_iff {names : List String} {name : String} :
    name ∈ skippedNames disk directory names ↔
      name ∈ names ∧ disk.readText? (directory.join name) = none := by
  simp [skippedNames]

/-- The names of the listings that are texts stay in their order. -/
theorem pairwise_listingTexts
    {names : List String}
    (ordered : names.Pairwise Precedes) :
    ((listingTexts disk directory names).map (·.1)).Pairwise Precedes := by
  refine List.pairwise_map.mpr (ordered.filterMap _ ?_)
  intro name other before listing known next nextKnown
  obtain ⟨text, -, rfl⟩ := Option.map_eq_some_iff.mp known
  obtain ⟨nextText, -, rfl⟩ := Option.map_eq_some_iff.mp nextKnown
  exact before

theorem readableListings_eq (names : List String) :
    readableListings disk directory names =
      (listingTexts disk directory names).map fun listing =>
        (listing.1, Listing.recordsOfText listing.2) := by
  rw [readableListings, listingTexts, List.map_filterMap]
  congr
  funext name
  unfold Listing.recordsOfFile
  cases disk.readText? (directory.join name) <;> rfl

theorem notices_addListingFiles (store : Store) (names : List String) :
    (addListingFiles disk directory store names).notices =
      (skippedNames disk directory names).map fun name =>
        .listingSkipped (.unreadableListing (directory.join name)) := by
  induction names generalizing store with
  | nil => rfl
  | cons name names inductionHypothesis =>
      rw [addListingFiles, Logged.notices_bind, inductionHypothesis]
      unfold addListingFile skippedNames Listing.recordsOfFile
      cases read : disk.readText? (directory.join name) with
      | some text => simp [read]
      | none => simp [read]

/-- The name of a listing in a directory is one that a file can have. -/
theorem HoldsListing.isFileName
    (wellFormed : disk.WellFormed)
    {name : String}
    {contents : ByteArray}
    (holds : HoldsListing disk directory name contents) :
    Path.IsFileName name := by
  have differs {text : String} (unmarked : ¬ "omnils".toList <:+: text.toList) :
      name ≠ text := by
    rintro rfl
    exact unmarked holds.1
  exact ⟨differs (by decide), differs (by decide), differs (by decide),
    holds.2.unslashed wellFormed⟩

/-- A listing in a directory can be read along the path of the directory. -/
theorem HoldsListing.readText?_join
    (wellFormed : disk.WellFormed)
    {name : String}
    {contents : ByteArray}
    (holds : HoldsListing disk directory name contents) :
    disk.readText? (directory.join name) = String.fromUTF8? contents := by
  have bytes := holds.2.readBytes?_join (holds.isFileName wellFormed)
  rw [Disk.readText?, bytes, Option.bind_some]

/-- What the listings of a directory are, and which of them are skipped. -/
structure Lists
    (disk : Disk)
    (directory : Path)
    (listings : List (String × String))
    (skipped : List String) : Prop where
  /-- Listings are in the order of the bytes of their names, each once. -/
  listings_ordered : (listings.map (·.1)).Pairwise Precedes
  /-- A listing is a text in a file of the directory. -/
  mem_listings_iff : ∀ name text, (name, text) ∈ listings ↔
    HoldsListing disk directory name text.toUTF8
  /-- What is skipped is in the same order, each once. -/
  skipped_ordered : skipped.Pairwise Precedes
  /-- What is skipped is no text. -/
  mem_skipped_iff : ∀ name, name ∈ skipped ↔
    ∃ contents, HoldsListing disk directory name contents ∧
      ∀ text : String, contents ≠ text.toUTF8

section

variable
  {contents : List (FileName × Node)}
  (wellFormed : disk.WellFormed)
  (listed : disk.list? directory = some contents)

include wellFormed listed

theorem lists_of_list? :
    Lists disk directory
      (listingTexts disk directory (listingNames (fileNames contents)))
      (skippedNames disk directory (listingNames (fileNames contents))) := by
  have ordered : (listingNames (fileNames contents)).Pairwise Precedes :=
    pairwise_listingNames (pairwise_fileNames_of_list? wellFormed listed)
  have named {name : String} :
      name ∈ listingNames (fileNames contents) ↔
        ∃ bytes, HoldsListing disk directory name bytes :=
    mem_listingNames_iff_of_list? wellFormed listed
  constructor
  case listings_ordered => exact pairwise_listingTexts ordered
  case skipped_ordered => exact ordered.filter _
  case mem_listings_iff =>
    intro name text
    rw [mem_listingTexts_iff, named]
    constructor
    · rintro ⟨⟨bytes, holds⟩, read⟩
      rw [holds.readText?_join wellFormed, Text.fromUTF8?_eq_some_iff] at read
      exact read ▸ holds
    · intro holds
      refine ⟨⟨_, holds⟩, ?_⟩
      rw [holds.readText?_join wellFormed, Text.fromUTF8?_toUTF8]
  case mem_skipped_iff =>
    intro name
    have unreadable (bytes : ByteArray) :
        String.fromUTF8? bytes = none ↔
          ∀ text : String, bytes ≠ text.toUTF8 := by
      simp only [Option.eq_none_iff_forall_ne_some, Ne,
        Text.fromUTF8?_eq_some_iff]
    rw [mem_skippedNames_iff, named]
    constructor
    · rintro ⟨⟨bytes, holds⟩, read⟩
      rw [holds.readText?_join wellFormed] at read
      exact ⟨bytes, holds, (unreadable bytes).mp read⟩
    · rintro ⟨bytes, holds, noText⟩
      refine ⟨⟨bytes, holds⟩, ?_⟩
      rw [holds.readText?_join wellFormed]
      exact (unreadable bytes).mpr noText

end

/-! ## Rewritten disks -/

section

variable
  (rewritten : disk.Rewritten other)
  (wellFormed : disk.WellFormed)

include rewritten wellFormed

theorem addListingFile_rewritten (store : Store) (name : String) :
    addListingFile other directory store name =
      addListingFile disk directory store name := by
  have same := rewritten.map_readText? wellFormed (directory.join name)
  unfold addListingFile Listing.recordsOfFile
  cases before : disk.readText? (directory.join name) with
  | none =>
      rw [before, Option.map_none, Option.map_eq_none_iff] at same
      rw [same]
  | some text =>
      rw [before, Option.map_some, Option.map_eq_some_iff] at same
      obtain ⟨next, after, sameCandidates⟩ := same
      rw [after]
      exact congrArg pure (addPackageListing_congr store name sameCandidates)

theorem addListingFiles_rewritten (store : Store) (names : List String) :
    addListingFiles other directory store names =
      addListingFiles disk directory store names := by
  induction names generalizing store with
  | nil => rfl
  | cons name names inductionHypothesis =>
      rw [addListingFiles, addListingFiles,
        addListingFile_rewritten rewritten wellFormed]
      simp only [inductionHypothesis]

theorem loadPackageListings_rewritten (store : Store) :
    store.loadPackageListings other directory =
      store.loadPackageListings disk directory := by
  have sameNames := map_fileNames_list? rewritten wellFormed directory
  unfold loadPackageListings
  cases listed : disk.list? directory with
  | none =>
      rw [listed, Option.map_none, Option.map_eq_none_iff] at sameNames
      rw [sameNames]
  | some contents =>
      rw [listed, Option.map_some, Option.map_eq_some_iff] at sameNames
      obtain ⟨others, otherListed, same⟩ := sameNames
      rw [otherListed]
      simp only [same, addListingFiles_rewritten rewritten wellFormed]

end

/-! ## Loading -/

/-- The store after an attempt to load a directory. -/
def afterLoading (store : Store) (disk : Disk) (directory : Path) : Store :=
  match store.loadPackageListings disk directory with
  | .ok loaded => loaded.value
  | .error _ => store

/-- What becomes of a store when listings of a directory are added to it. -/
structure Adds
    (store : Store)
    (directory : Path)
    (listings : List (String × String))
    (skipped : List String)
    (loaded : Logged Store) : Prop where
  /-- Every listing is added once, with its trimmed lines. -/
  value_eq : loaded.value = store.addPackageListings
    (listings.map fun listing => (listing.1, Listing.recordsOfText listing.2))
  /-- Every listing that is skipped gives one notice. -/
  notices_eq : loaded.notices = skipped.map fun name =>
    .listingSkipped (.unreadableListing (directory.join name))
  /-- There is one package more for every name that tells one. -/
  installedPackages_eq : loaded.value.installedPackages =
    store.installedPackages ++
      (listings.filterMap fun listing =>
        Listing.packageOfName? listing.1).map installedPackage
  loadedFunctions_eq : loaded.value.loadedFunctions = store.loadedFunctions
  loadedPackages_eq : loaded.value.loadedPackages = store.loadedPackages
  sessionObjects_eq : loaded.value.sessionObjects = store.sessionObjects

theorem adds_addListingFiles
    (disk : Disk)
    (directory : Path)
    (store : Store)
    (names : List String) :
    Adds store directory (listingTexts disk directory names)
      (skippedNames disk directory names)
      (addListingFiles disk directory store names) := by
  have value :
      (addListingFiles disk directory store names).value =
        store.addPackageListings
          ((listingTexts disk directory names).map fun listing =>
            (listing.1, Listing.recordsOfText listing.2)) := by
    rw [value_addListingFiles, readableListings_eq]
  constructor
  case value_eq => exact value
  case notices_eq => exact notices_addListingFiles store names
  case installedPackages_eq =>
    rw [value, installedPackages_addPackageListings, List.filterMap_map]
    rfl
  case loadedFunctions_eq => rw [value, loadedFunctions_addPackageListings]
  case loadedPackages_eq => rw [value, loadedPackages_addPackageListings]
  case sessionObjects_eq => rw [value, sessionObjects_addPackageListings]

/--
Loading a directory fails exactly if nothing can be listed there, and then the
store stays as it was.  Otherwise it adds the listings of the directory, in the
order of their names, and nothing else.  It does the same when the entries of
the disk come in another order and when texts have other blanks between their
rows.
-/
theorem loadPackageListings_of_wellFormed
    (store : Store)
    {disk : Disk}
    (wellFormed : disk.WellFormed)
    (directory : Path) :
    (∀ failure,
      store.loadPackageListings disk directory = .error failure ↔
        failure = .unlistableDirectory directory ∧
          ∀ location, disk.walk directory = .ok location →
            disk.node? location = none) ∧
      (∀ failure,
        store.loadPackageListings disk directory = .error failure →
          store.afterLoading disk directory = store) ∧
      (∀ loaded,
        store.loadPackageListings disk directory = .ok loaded →
          store.afterLoading disk directory = loaded.value ∧
            ∃ listings skipped, Lists disk directory listings skipped ∧
              Adds store directory listings skipped loaded) ∧
      (∀ name package,
        Listing.packageOfName? name = some package ↔
          Listing.TellsPackage name package) ∧
      ∀ other, disk.Rewritten other →
        store.loadPackageListings other directory =
          store.loadPackageListings disk directory := by
  refine ⟨?failed, ?unchanged, ?succeeded,
    fun _ _ => Listing.packageOfName?_eq_some_iff,
    fun other rewritten =>
      loadPackageListings_rewritten rewritten wellFormed store⟩
  case failed =>
    intro failure
    rw [← Disk.list?_eq_none_iff]
    unfold loadPackageListings
    cases disk.list? directory with
    | none => simp [eq_comm]
    | some contents => simp
  case unchanged =>
    intro failure failed
    rw [afterLoading, failed]
  case succeeded =>
    intro loaded succeeded
    have after : store.afterLoading disk directory = loaded.value := by
      rw [afterLoading, succeeded]
    unfold loadPackageListings at succeeded
    cases listed : disk.list? directory with
    | none =>
        rw [listed] at succeeded
        cases succeeded
    | some contents =>
        rw [listed] at succeeded
        cases succeeded
        exact ⟨after, _, _, lists_of_list? wellFormed listed,
          adds_addListingFiles disk directory store _⟩

/--
A directory holds a listing that is a text, a listing that is none, another
file, and a directory with the name of a listing.  Its listing is rewritten
with carriage returns, its entries are reversed, and another directory is
missing.
-/
theorem loadPackageListings_mixed :
    let text := "y\x06numeric\n\n x\x06function "
    let returns := Text.join "\r\n" (Text.fields '\n' text)
    let disk :=
      (((Disk.empty.insertFile ⟨"in/omnils_b_1"⟩ text.toUTF8).insertFile
        ⟨"in/omnils_a_2"⟩ ⟨#[0xFF]⟩).insertFile
          ⟨"in/README"⟩ "".toUTF8).insertDirectoryAt ⟨"in/omnils_c_3"⟩
    let other :=
      disk.put (.ofPath ⟨"in/omnils_b_1"⟩) (.file returns.toUTF8)
    let reversed : Disk := ⟨disk.entries.reverse⟩
    disk.WellFormed ∧
      (∃ loaded listings skipped,
        Store.empty.loadPackageListings disk ⟨"in"⟩ = .ok loaded ∧
          Lists disk ⟨"in"⟩ listings skipped ∧
          Adds Store.empty ⟨"in"⟩ listings skipped loaded ∧
          ("omnils_b_1", text) ∈ listings ∧ "omnils_a_2" ∈ skipped ∧
          Listing.packageOfName? "omnils_b_1" = some "b") ∧
      (∃ failure,
        Store.empty.loadPackageListings disk ⟨"out"⟩ = .error failure ∧
          Store.empty.afterLoading disk ⟨"out"⟩ = Store.empty) ∧
      disk.Rewritten other ∧
      Store.empty.loadPackageListings other ⟨"in"⟩ =
        Store.empty.loadPackageListings disk ⟨"in"⟩ ∧
      Store.empty.loadPackageListings reversed ⟨"in"⟩ =
        Store.empty.loadPackageListings disk ⟨"in"⟩ := by
  intro text returns disk other reversed
  have wellFormed : disk.WellFormed :=
    (((Disk.wellFormed_empty.insertFile _ _).insertFile _ _).insertFile
      _ _).insertDirectoryAt _
  have present :
      disk.node? (.ofPath ⟨"in/omnils_b_1"⟩) = some (.file text.toUTF8) := by
    decide +kernel
  have rewritten : disk.Rewritten other :=
    Disk.rewritten_put wellFormed present (Listing.respaced_join_returns text)
  have backwards (held : Disk) : held.Rewritten ⟨held.entries.reverse⟩ :=
    Disk.rewritten_of_perm (List.reverse_perm held.entries)
  have listing :
      HoldsListing disk ⟨"in"⟩ "omnils_b_1" text.toUTF8 :=
    ⟨by decide, .ofPath ⟨"in"⟩, by decide +kernel⟩
  have invalid : HoldsListing disk ⟨"in"⟩ "omnils_a_2" ⟨#[0xFF]⟩ :=
    ⟨by decide, .ofPath ⟨"in"⟩, by decide +kernel⟩
  have noText (other : String) : ⟨#[0xFF]⟩ ≠ other.toUTF8 := by
    have undecoded : String.fromUTF8? ⟨#[0xFF]⟩ = none := by decide
    rw [Ne, ← Text.fromUTF8?_eq_some_iff, undecoded]
    exact (Option.some_ne_none other).symm
  obtain ⟨failsWithin, -, within, tells, same⟩ :=
    loadPackageListings_of_wellFormed Store.empty wellFormed ⟨"in"⟩
  obtain ⟨-, without, -⟩ :=
    loadPackageListings_of_wellFormed Store.empty wellFormed ⟨"out"⟩
  refine ⟨wellFormed, ?loads, ?fails, rewritten, same other rewritten,
    same reversed (backwards disk)⟩
  case loads =>
    cases attempt : Store.empty.loadPackageListings disk ⟨"in"⟩ with
    | error failure =>
        obtain ⟨-, nothing⟩ := (failsWithin failure).mp attempt
        obtain ⟨-, location, walked, found, -⟩ := listing
        rw [nothing location walked] at found
        cases found
    | ok loaded =>
        obtain ⟨-, listings, skipped, lists, adds⟩ := within loaded attempt
        refine ⟨loaded, listings, skipped, rfl, lists, adds, ?_, ?_, ?_⟩
        · exact (lists.mem_listings_iff _ _).mpr listing
        · exact (lists.mem_skipped_iff _).mpr ⟨_, invalid, noText⟩
        · exact (tells _ _).mpr ⟨"omnils", "1", by decide⟩
  case fails =>
    have unlistable : disk.list? ⟨"out"⟩ = none := by decide +kernel
    have attempt : Store.empty.loadPackageListings disk ⟨"out"⟩ =
        .error (.unlistableDirectory ⟨"out"⟩) := by
      rw [loadPackageListings, unlistable]
    exact ⟨_, attempt, without _ attempt⟩

end Store
end RCompletion
