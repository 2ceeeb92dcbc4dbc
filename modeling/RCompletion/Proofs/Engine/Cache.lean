import RCompletion.Proofs.Engine.Run

/-!
# The loaded functions as a cache

The loaded functions are only recomputed when the set of loaded packages
changes.  This cannot be seen from outside: once the session serves both of its
files and some package is loaded, an engine answers like one that was just
created, whatever it was asked and could not read before.
-/

namespace RCompletion
namespace Engine

variable {σ τ : Type} [Session σ] [Session τ]

/-- Calls keep an engine coherent that knew of no loaded package at first. -/
theorem Prepared.coherent_callAll
    {configuration : Configuration}
    {listings : List (String × List String)}
    {engine : Engine σ}
    (prepared : Prepared configuration listings engine)
    (calls : List (Call σ)) :
    (engine.callAll calls).store.Coherent := by
  obtain ⟨-, -, store⟩ := prepared.spec
  obtain ⟨reports, reported⟩ := engine.store_callAll calls
  have nothing : engine.store.loadedPackages = [] := by
    rw [store, Store.loadedPackages_addPackageListings]
    rfl
  rw [reported]
  exact (Store.coherent_of_loadedPackages_eq_nil nothing).receiveAll reports

/-- A refresh of a coherent engine loads the functions of the packages served. -/
theorem Serves.loadedFunctions_refresh
    {engine : Engine σ}
    {disk : Disk}
    {objects packages : List String}
    (serves : engine.Serves disk objects packages)
    (coherent : engine.store.Coherent)
    (named : ∃ name ∈ packages, name ≠ "") :
    (engine.refresh disk).value.store.loadedFunctions =
      Store.functionsOf engine.store.packageSymbols (namesOf packages) := by
  have refreshed : (engine.refresh disk).value.store.Coherent := by
    rw [serves.store_refresh]
    exact (coherent.receive (.objects objects)).setLoadedPackages _
  have recorded :
      (engine.refresh disk).value.store.loadedPackages =
        namesOf packages := by
    rw [serves.store_refresh, Store.loadedPackages_setLoadedPackages]
  have symbols :
      (engine.refresh disk).value.store.packageSymbols =
        engine.store.packageSymbols := by
    obtain ⟨reports, reported⟩ := engine.store_refresh disk
    rw [reported, Store.packageSymbols_receiveAll]
  obtain ⟨name, present, nonempty⟩ := named
  have loaded : (engine.refresh disk).value.store.loadedPackages ≠ [] := by
    rw [recorded]
    exact List.ne_nil_of_mem ((mem_namesOf packages name).mpr
      ⟨present, nonempty⟩)
  rw [refreshed loaded, recorded, symbols]

/-- A refresh of an engine whose session serves both files takes over the objects. -/
theorem Serves.sessionObjects_refresh
    {engine : Engine σ}
    {disk : Disk}
    {objects packages : List String}
    (serves : engine.Serves disk objects packages) :
    (engine.refresh disk).value.store.sessionObjects =
      Listing.candidates objects := by
  rw [serves.store_refresh]
  rfl

/--
Let an engine have been called in any way since it got its listings, and let
its session now serve an object listing and at least one loaded package.  It
answers every request like an engine that only got the same listings and whose
session serves the same objects and the same set of loaded packages.
-/
theorem response_eq_response_of_fresh
    {configuration : Configuration}
    {listings : List (String × List String)}
    {engine : Engine σ}
    {fresh : Engine τ}
    {disk freshDisk : Disk}
    {objects packages freshPackages : List String}
    (prepared : Prepared configuration listings engine)
    (calls : List (Call σ))
    (freshPrepared : Prepared configuration listings fresh)
    (serves : (engine.callAll calls).Serves disk objects packages)
    (freshServes : fresh.Serves freshDisk objects freshPackages)
    (named : ∃ name ∈ packages, name ≠ "")
    (same : ∀ name, name ≠ "" → (name ∈ packages ↔ name ∈ freshPackages))
    (rows : List String)
    (cursor : Buffer.Cursor) :
    ((engine.callAll calls).complete disk rows cursor).value.2 =
      (fresh.complete freshDisk rows cursor).value.2 := by
  obtain ⟨configured, proper, store⟩ := prepared.spec
  obtain ⟨freshConfigured, freshProper, freshStore⟩ := freshPrepared.spec
  obtain ⟨keptConfiguration, keptDetector⟩ := engine.callAll_keeps calls
  obtain ⟨reports, reported⟩ := engine.store_callAll calls
  have configurations :
      (engine.callAll calls).configuration = fresh.configuration := by
    rw [keptConfiguration, configured, freshConfigured]
  have detectors : (engine.callAll calls).detector = fresh.detector := by
    unfold Proper at proper freshProper
    rw [configured] at proper
    rw [freshConfigured] at freshProper
    rw [keptDetector]
    exact Except.ok.inj (proper.symm.trans freshProper)
  have installed :
      (engine.callAll calls).store.installedPackages =
        fresh.store.installedPackages := by
    rw [reported, Store.installedPackages_receiveAll, store, freshStore]
  have symbols :
      (engine.callAll calls).store.packageSymbols =
        fresh.store.packageSymbols := by
    rw [reported, Store.packageSymbols_receiveAll, store, freshStore]
  have freshNamed : ∃ name ∈ freshPackages, name ≠ "" := by
    obtain ⟨name, present, nonempty⟩ := named
    exact ⟨name, (same name nonempty).mp present, nonempty⟩
  have sameNames : ∀ name,
      name ∈ namesOf packages ↔ name ∈ namesOf freshPackages := by
    intro name
    rw [mem_namesOf, mem_namesOf]
    exact and_congr_left (same name)
  refine response_eq_of_alike configurations detectors installed ?_ rows cursor
  constructor
  · obtain ⟨more, refreshed⟩ := (engine.callAll calls).store_refresh disk
    obtain ⟨freshMore, freshRefreshed⟩ := fresh.store_refresh freshDisk
    rw [refreshed, freshRefreshed, Store.installedPackages_receiveAll,
      Store.installedPackages_receiveAll, installed]
  · rw [serves.loadedFunctions_refresh (prepared.coherent_callAll calls) named,
      freshServes.loadedFunctions_refresh (freshPrepared.coherent_callAll [])
        freshNamed,
      symbols, Store.functionsOf_eq_of_same sameNames]
  · rw [serves.sessionObjects_refresh, freshServes.sessionObjects_refresh]

/-- A session that serves one object and the given loaded packages. -/
def rehearsal (packages : List String) : Session.Rehearsed where
  files := [
    (({} : Configuration).paths.objectListingFile, ["x\x06numeric"]),
    (({} : Configuration).paths.loadedPackagesFile, packages)]

/-- The listings of two packages with a function each. -/
def statsAndUtils : List (String × List String) := [
  ("omnils_stats_4.4.0", ["sd\x06function\x06\x06stats\x06x"]),
  ("omnils_utils_4.4.0", ["head\x06function\x06\x06utils\x06x\t..."])]

/--
A package is loaded, both files disappear, they come back without any package,
and at last with both packages; requests and refreshes go on all the while.
-/
def detour : List (Call Session.Rehearsed) := [
  .session (rehearsal ["stats"]), .complete .empty ["s"] ⟨0, 1⟩,
  .session {}, .refreshPackages .empty, .refreshObjects .empty,
  .session (rehearsal [""]), .refreshPackages .empty,
  .session (rehearsal ["utils", "stats", ""])]

/-- After that detour an engine answers like one that saw the last files only. -/
theorem response_after_detour :
    ∃ engine fresh : Engine Session.Rehearsed,
      Prepared {} statsAndUtils engine ∧
        Prepared {} statsAndUtils fresh ∧
        (engine.callAll detour).Serves .empty ["x\x06numeric"]
          ["utils", "stats", ""] ∧
        fresh.Serves .empty ["x\x06numeric"] ["stats", "utils", "stats"] ∧
        ∀ rows cursor,
          ((engine.callAll detour).complete .empty rows cursor).value.2 =
            (fresh.complete .empty rows cursor).value.2 := by
  obtain ⟨engine, prepared⟩ :
      ∃ engine : Engine Session.Rehearsed,
        Prepared {} statsAndUtils engine := by
    obtain ⟨created, succeeded⟩ :
        ∃ created, ofConfiguration {} (rehearsal []) = .ok created :=
      ⟨_, rfl⟩
    exact ⟨_, ((Prepared.created succeeded).supplied (.listing _ _)).supplied
      (.listing _ _)⟩
  have freshPrepared :=
    prepared.session (rehearsal ["stats", "utils", "stats"])
  have serves :
      (engine.callAll detour).Serves .empty ["x\x06numeric"]
        ["utils", "stats", ""] := by
    rw [serves_iff, (engine.callAll_keeps detour).1, prepared.spec.1]
    exact ⟨rfl, rfl⟩
  have freshServes :
      ({ engine with session := rehearsal ["stats", "utils", "stats"] } :
        Engine Session.Rehearsed).Serves .empty ["x\x06numeric"]
        ["stats", "utils", "stats"] := by
    rw [serves_iff, prepared.spec.1]
    exact ⟨rfl, rfl⟩
  exact ⟨engine, _, prepared, freshPrepared, serves, freshServes,
    response_eq_response_of_fresh prepared detour freshPrepared serves
      freshServes ⟨"stats", by simp, by simp⟩ (by simp; tauto)⟩

end Engine
end RCompletion
