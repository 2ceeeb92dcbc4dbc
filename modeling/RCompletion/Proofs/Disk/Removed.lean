import RCompletion.Proofs.Disk.Plain

/-!
# Removed files

A disk without the files that some paths lead to holds everything else as
before: the directories, so that paths lead where they led before, and the other
files, so that they are read as before.
-/

namespace RCompletion
namespace Disk

/-- The locations of paths at which there are files. -/
def filesOf (disk : Disk) (paths : List Path) : List Location :=
  (paths.map Location.ofPath).filter (disk.HasFile ·)

/-- A disk without the files that paths lead to. -/
def withoutFiles (disk : Disk) (paths : List Path) : Disk :=
  ⟨disk.entries.filter (·.1 ∉ disk.filesOf paths)⟩

variable {disk : Disk} {paths : List Path} {location : Location}

theorem mem_filesOf_iff :
    location ∈ disk.filesOf paths ↔
      disk.HasFile location ∧ location ∈ paths.map Location.ofPath := by
  rw [filesOf, List.mem_filter, decide_eq_true_eq, and_comm]

theorem mem_filesOf_concat_iff {path : Path} :
    location ∈ disk.filesOf (paths ++ [path]) ↔
      location ∈ disk.filesOf paths ∨
        location = Location.ofPath path ∧ disk.HasFile location := by
  rw [filesOf, List.map_append, List.filter_append, List.mem_append]
  simp [filesOf]

/-- Only which files are gone counts. -/
theorem withoutFiles_congr
    {others : List Path}
    (same : ∀ location,
      location ∈ disk.filesOf paths ↔ location ∈ disk.filesOf others) :
    disk.withoutFiles paths = disk.withoutFiles others := by
  simp only [withoutFiles, same]

@[simp] theorem withoutFiles_nil (disk : Disk) :
    disk.withoutFiles [] = disk := by
  simp [withoutFiles, filesOf]

/-! ## What is left -/

/-- A file is below an origin. -/
theorem HasFile.names_ne_nil (file : disk.HasFile location) :
    location.names ≠ [] := by
  intro isOrigin
  obtain ⟨-, contents, held⟩ := file
  simp [node?, isOrigin] at held

/-- The files are gone. -/
theorem node?_withoutFiles_of_mem (removed : location ∈ disk.filesOf paths) :
    (disk.withoutFiles paths).node? location = none := by
  have proper := (mem_filesOf_iff.mp removed).1.names_ne_nil
  rw [node?, if_neg (by simpa using proper), Option.map_eq_none_iff,
    List.find?_eq_none]
  intro entry kept here
  have absent := (List.mem_filter.mp kept).2
  rw [decide_eq_true_eq] at absent here
  exact absent (here ▸ removed)

/-- Everything else is there as before. -/
theorem node?_withoutFiles_of_not_mem
    (kept : location ∉ disk.filesOf paths) :
    (disk.withoutFiles paths).node? location = disk.node? location := by
  rw [node?, node?, withoutFiles, List.find?_filter]
  congr 3
  funext entry
  by_cases here : entry.1 = location
  · simp [here, kept]
  · simp [here]

/-- No directory is removed. -/
theorem node?_withoutFiles_eq_directory_iff :
    (disk.withoutFiles paths).node? location = some .directory ↔
      disk.node? location = some .directory := by
  by_cases removed : location ∈ disk.filesOf paths
  case pos =>
    obtain ⟨⟨-, contents, held⟩, -⟩ := mem_filesOf_iff.mp removed
    simp [node?_withoutFiles_of_mem removed, held]
  case neg => rw [node?_withoutFiles_of_not_mem removed]

theorem reaches_withoutFiles_iff :
    (disk.withoutFiles paths).Reaches location ↔ disk.Reaches location := by
  simp only [Reaches, node?_withoutFiles_eq_directory_iff]

theorem hasDirectory_withoutFiles_iff :
    (disk.withoutFiles paths).HasDirectory location ↔
      disk.HasDirectory location := by
  simp only [HasDirectory, reaches_withoutFiles_iff,
    node?_withoutFiles_eq_directory_iff]

theorem hasFile_withoutFiles_iff :
    (disk.withoutFiles paths).HasFile location ↔
      disk.HasFile location ∧ location ∉ paths.map Location.ofPath := by
  by_cases removed : location ∈ disk.filesOf paths
  case pos =>
    have known := (mem_filesOf_iff.mp removed).2
    simp [HasFile, node?_withoutFiles_of_mem removed, known]
  case neg =>
    have other (file : disk.HasFile location) :
        location ∉ paths.map Location.ofPath :=
      fun known => removed (mem_filesOf_iff.mpr ⟨file, known⟩)
    rw [HasFile, reaches_withoutFiles_iff,
      node?_withoutFiles_of_not_mem removed]
    exact ⟨fun file => ⟨file, other file⟩, And.left⟩

/-! ## One more file -/

/-- A file that is left is erased after the others. -/
theorem erase_withoutFiles
    {path : Path}
    (file : disk.HasFile (Location.ofPath path)) :
    (disk.withoutFiles paths).erase (Location.ofPath path) =
      disk.withoutFiles (paths ++ [path]) := by
  simp only [erase, withoutFiles, List.filter_filter]
  congr 2
  funext entry
  by_cases here : entry.1 = Location.ofPath path
  · simp [here, file, mem_filesOf_concat_iff]
  · simp [here, mem_filesOf_concat_iff]

/-- A path that does not lead to a file that is left makes no difference. -/
theorem withoutFiles_concat_of_not_hasFile
    {path : Path}
    (gone : ¬ (disk.withoutFiles paths).HasFile (Location.ofPath path)) :
    disk.withoutFiles (paths ++ [path]) = disk.withoutFiles paths := by
  rw [hasFile_withoutFiles_iff, not_and, not_not] at gone
  refine withoutFiles_congr fun location => ?_
  rw [mem_filesOf_concat_iff, or_iff_left_iff_imp]
  rintro ⟨rfl, file⟩
  exact mem_filesOf_iff.mpr ⟨file, gone file⟩

/-! ## Removal -/

/-- What stands in the way of a plain path when the files of earlier paths are
gone: a directory at its end, or a file on its way that is still there. -/
inductive Hinders (disk : Disk) (earlier : List Path) (path : Path) :
    Obstacle → Prop
  | directory
      (there : disk.HasDirectory (Location.ofPath path)) :
      Hinders disk earlier path .isDirectory
  | file
      {location : Location}
      (onTheWay : location ∈ (Location.ofPath path).above)
      (there : disk.HasFile location)
      (left : location ∉ earlier.map Location.ofPath) :
      Hinders disk earlier path .notDirectory

/-- Where directories lead all the way, only another directory is a hindrance. -/
theorem Hinders.hasDirectory
    {earlier : List Path}
    {path : Path}
    {obstacle : Obstacle}
    (hinders : disk.Hinders earlier path obstacle)
    (reaches : disk.Reaches (Location.ofPath path)) :
    disk.HasDirectory (Location.ofPath path) := by
  cases hinders with
  | directory there => exact there
  | file onTheWay there left =>
      exact absurd there (reaches.not_hasFile onTheWay)

/-- What hinders a path hinders the same path after fewer others. -/
theorem Hinders.of_same
    {earlier others : List Path}
    {path other : Path}
    {obstacle : Obstacle}
    (hinders : disk.Hinders earlier path obstacle)
    (fewer : others.map Location.ofPath ⊆ earlier.map Location.ofPath)
    (same : Location.ofPath path = Location.ofPath other) :
    disk.Hinders others other obstacle := by
  cases hinders with
  | directory there => exact .directory (same ▸ there)
  | file onTheWay there left =>
      exact .file (same ▸ onTheWay) there fun known => left (fewer known)

/-- A file is removed after those of earlier paths, or something hinders that
and nothing changes. -/
theorem unlink_withoutFiles
    (earlier : List Path)
    {path : Path}
    (plain : path.IsPlain) :
    ((disk.withoutFiles earlier).unlink path =
        .ok (disk.withoutFiles (earlier ++ [path])) ∧
      ∀ obstacle, ¬ disk.Hinders earlier path obstacle) ∨
    ∃ obstacle,
      (disk.withoutFiles earlier).unlink path = .error obstacle ∧
      disk.withoutFiles (earlier ++ [path]) = disk.withoutFiles earlier ∧
      ∀ other, disk.Hinders earlier path other ↔
        other = obstacle ∧ obstacle ≠ .missing := by
  rw [unlink, fileLocation_of_isPlain plain]
  by_cases file : (disk.withoutFiles earlier).HasFile (Location.ofPath path)
  case pos =>
    left
    have held := (hasFile_withoutFiles_iff.mp file).1
    rw [if_pos file, ← erase_withoutFiles held]
    exact ⟨rfl, fun obstacle hinders =>
      held.not_hasDirectory (hinders.hasDirectory held.1)⟩
  case neg =>
    right
    rw [if_neg file]
    simp only [withoutFiles_concat_of_not_hasFile file,
      hasDirectory_withoutFiles_iff, hasFile_withoutFiles_iff]
    by_cases directory : disk.HasDirectory (Location.ofPath path)
    case pos =>
      refine ⟨.isDirectory, by rw [if_pos directory]; rfl, trivial,
        fun other => ?_⟩
      constructor
      · rintro (there | ⟨onTheWay, there, -⟩)
        · exact ⟨rfl, nofun⟩
        · exact absurd there (directory.1.not_hasFile onTheWay)
      · rintro ⟨rfl, -⟩
        exact .directory directory
    case neg =>
      rw [if_neg directory]
      split
      case isTrue blocked =>
        obtain ⟨location, onTheWay, there, left⟩ := blocked
        refine ⟨.notDirectory, rfl, trivial, fun other => ?_⟩
        constructor
        · rintro (there | -)
          · exact absurd there directory
          · exact ⟨rfl, nofun⟩
        · rintro ⟨rfl, -⟩
          exact .file onTheWay there left
      case isFalse free =>
        refine ⟨.missing, rfl, trivial, fun other => iff_of_false ?_ (by simp)⟩
        rintro (there | ⟨onTheWay, there, left⟩)
        · exact directory there
        · exact free ⟨_, onTheWay, there, left⟩

/-! ## Other files -/

theorem walkStep_eq_ok_iff {start : Location} {piece : FileName} :
    disk.walkStep start piece = .ok location ↔
      disk.node? start = some .directory ∧
        start.follow piece = location := by
  unfold walkStep
  split
  all_goals simp [*]

theorem foldlM_walkStep_cons_eq_ok_iff
    {start : Location}
    {piece : FileName}
    {pieces : List FileName} :
    (piece :: pieces).foldlM disk.walkStep start = .ok location ↔
      disk.node? start = some .directory ∧
        pieces.foldlM disk.walkStep (start.follow piece) = .ok location := by
  rw [List.foldlM_cons]
  cases stepped : disk.walkStep start piece with
  | error obstacle =>
      refine iff_of_false nofun fun onward => ?_
      rw [walkStep_of_directory onward.1] at stepped
      cases stepped
  | ok next =>
      obtain ⟨directory, rfl⟩ := walkStep_eq_ok_iff.mp stepped
      exact (and_iff_right directory).symm

/-- A path can only lead to the location of its pieces. -/
theorem eq_foldl_follow_of_foldlM_walkStep
    {pieces : List FileName}
    {start : Location}
    (walked : pieces.foldlM disk.walkStep start = .ok location) :
    location = pieces.foldl Location.follow start := by
  induction pieces generalizing start with
  | nil => exact (Except.ok.inj walked).symm
  | cons piece pieces inductionHypothesis =>
      exact inductionHypothesis (foldlM_walkStep_cons_eq_ok_iff.mp walked).2

/-- Where the same directories are, paths lead to the same places. -/
theorem foldlM_walkStep_eq_ok_congr
    {other : Disk}
    (same : ∀ location,
      other.node? location = some .directory ↔
        disk.node? location = some .directory)
    {pieces : List FileName}
    {start : Location} :
    pieces.foldlM other.walkStep start = .ok location ↔
      pieces.foldlM disk.walkStep start = .ok location := by
  induction pieces generalizing start with
  | nil => rfl
  | cons piece pieces inductionHypothesis =>
      rw [foldlM_walkStep_cons_eq_ok_iff, foldlM_walkStep_cons_eq_ok_iff,
        same, inductionHypothesis]

theorem walk_eq_ok_iff {path : Path} :
    disk.walk path = .ok location ↔
      path.text ≠ "" ∧
        disk.follows path path.pieces = .ok location := by
  by_cases empty : path.text = ""
  · simp [walk, Path.isEmpty, empty]
  · rw [walk_of_filled empty, and_iff_right empty]

theorem readBytes?_eq_some_iff {path : Path} {contents : ByteArray} :
    disk.readBytes? path = some contents ↔
      ∃ location, disk.walk path = .ok location ∧
        disk.node? location = some (.file contents) := by
  unfold readBytes? fileLocation
  cases disk.walk path with
  | error obstacle => simp [bind, Except.bind]
  | ok location =>
      simp only [bind, Except.bind, Except.ok.injEq, exists_eq_left']
      rcases held : disk.node? location with _ | _ | contents
      · simp
      · simp
      · simp [pure, Except.pure, held]

/-- A file that no path leads to is read as before. -/
theorem readBytes?_withoutFiles
    {path : Path}
    (other : Location.ofPath path ∉ paths.map Location.ofPath) :
    (disk.withoutFiles paths).readBytes? path = disk.readBytes? path := by
  ext contents
  rw [readBytes?_eq_some_iff, readBytes?_eq_some_iff]
  simp only [walk_eq_ok_iff, follows,
    foldlM_walkStep_eq_ok_congr fun _ => node?_withoutFiles_eq_directory_iff]
  refine exists_congr fun location => and_congr_right fun walked => ?_
  have here : location = Location.ofPath path :=
    eq_foldl_follow_of_foldlM_walkStep walked.2
  rw [node?_withoutFiles_of_not_mem]
  exact fun removed => other (here ▸ (mem_filesOf_iff.mp removed).2)

end Disk
end RCompletion
