import RCompletion.Proofs.Disk.WellFormed

/-!
# Directories

The children of a directory are what a disk holds one name below it, each name
once.  A file that is a child of a directory is read along the path of the
directory with the name put after it.
-/

namespace RCompletion

namespace Path

/-- A name that a file can have. -/
structure IsFileName (name : String) : Prop where
  filled : name ≠ ""
  notHere : name ≠ "."
  notUp : name ≠ ".."
  unslashed : '/' ∉ name.toList

variable {path : Path} {name : String}

/-- What a path with a name put after it consists of. -/
theorem toList_text_join (filled : path.text ≠ "") (name : String) :
    ∃ start,
      (path.join name).text.toList = start ++ '/' :: name.toList ∧
        (path.text.toList = start ∨ path.text.toList = start ++ ['/']) := by
  have nonempty : path.isEmpty = false := by simp [isEmpty, filled]
  by_cases ended : path.text.toList.getLast? = some '/'
  case pos =>
    obtain ⟨start, parts⟩ := List.getLast?_eq_some_iff.mp ended
    refine ⟨start, ?_, .inr parts⟩
    simp [join, parts]
  case neg =>
    refine ⟨path.text.toList, ?_, .inl rfl⟩
    simp [join, nonempty, ended]

theorem text_join_ne_empty (filled : path.text ≠ "") (name : String) :
    (path.join name).text ≠ "" := by
  obtain ⟨start, joined, -⟩ := toList_text_join filled name
  rw [Ne, ← String.toList_eq_nil_iff, joined]
  simp

theorem isAbsolute_join (filled : path.text ≠ "") (name : String) :
    (path.join name).isAbsolute = path.isAbsolute := by
  have nonempty : path.text.toList ≠ [] := by
    rwa [Ne, String.toList_eq_nil_iff]
  have extended :
      ∃ rest, (path.join name).text.toList = path.text.toList ++ rest := by
    obtain ⟨start, joined, same | slashed⟩ := toList_text_join filled name
    · exact ⟨_, same ▸ joined⟩
    · exact ⟨name.toList, by rw [joined, slashed]; simp⟩
  obtain ⟨rest, parts⟩ := extended
  rw [isAbsolute, isAbsolute, parts, List.head?_append_of_ne_nil _ nonempty]

/-- A name is the last piece of a path that it was put after. -/
theorem pieces_join (filled : path.text ≠ "") (unslashed : '/' ∉ name.toList) :
    ∃ start, (path.join name).pieces = start ++ [name] ∧
      (path.pieces = start ∨ path.pieces = start ++ [""]) := by
  obtain ⟨start, joined, whole⟩ := toList_text_join filled name
  refine ⟨(Text.splitAt '/' start).map String.ofList, ?_, ?_⟩
  · rw [pieces, Text.fields, joined, Text.splitAt_append_cons,
      Text.splitAt_of_not_mem unslashed, List.map_append]
    simp
  · rw [pieces, Text.fields]
    rcases whole with same | slashed
    · exact .inl (by rw [same])
    · right
      rw [slashed, Text.splitAt_append_cons, List.map_append]
      rfl

end Path

namespace Location

theorem names_child_ne_nil (location : Location) (name : FileName) :
    (location.child name).names ≠ [] := by
  simp [child]

/-- The name of a file leads to a child. -/
theorem follow_toUTF8
    (location : Location)
    {name : String}
    (proper : Path.IsFileName name) :
    location.follow name.toUTF8 = location.child name.toUTF8 := by
  simp only [follow, String.toUTF8_eq_toByteArray, String.toByteArray_inj]
  rw [if_neg (not_or.mpr ⟨proper.filled, proper.notHere⟩),
    if_neg proper.notUp]

end Location

namespace Disk

variable {disk : Disk} {directory : Path} {location : Location}

/-! ## Walking into a directory -/

/-- Going on from a directory leads to its child. -/
theorem walkStep_toUTF8
    (found : disk.node? location = some .directory)
    {name : String}
    (proper : Path.IsFileName name) :
    disk.walkStep location name.toUTF8 =
      .ok (location.child name.toUTF8) := by
  rw [walkStep, found, ← location.follow_toUTF8 proper]

/-- A slash at the end of a path leads nowhere else. -/
theorem eq_of_walkStep_empty
    {before : Location}
    (walked : disk.walkStep before "".toUTF8 = .ok location) :
    before = location := by
  unfold walkStep at walked
  split at walked
  · cases walked
  · cases walked
  · have stays : before.follow "".toUTF8 = before := by simp [Location.follow]
    rw [stays] at walked
    exact Except.ok.inj walked

/-- The location that pieces lead to from the start of a path. -/
def follows (disk : Disk) (path : Path) (pieces : List String) :
    Except Obstacle Location :=
  (pieces.map String.toUTF8).foldlM disk.walkStep
    (Location.origin path.isAbsolute)

theorem follows_append_singleton
    (path : Path)
    (pieces : List String)
    (piece : String) :
    disk.follows path (pieces ++ [piece]) =
      disk.follows path pieces >>= (disk.walkStep · piece.toUTF8) := by
  rw [follows, List.map_append, List.foldlM_append]
  simp [follows]

theorem walk_of_filled {path : Path} (filled : path.text ≠ "") :
    disk.walk path = disk.follows path path.pieces := by
  have nonempty : ¬ path.isEmpty = true := by simpa [Path.isEmpty] using filled
  rw [walk, if_neg nonempty, follows]

/-- The name of a child put after the path of a directory leads to the child. -/
theorem walk_join
    (walked : disk.walk directory = .ok location)
    (found : disk.node? location = some .directory)
    {name : String}
    (proper : Path.IsFileName name) :
    disk.walk (directory.join name) = .ok (location.child name.toUTF8) := by
  have filled : directory.text ≠ "" := by
    intro empty
    simp [walk, Path.isEmpty, empty] at walked
  obtain ⟨start, joined, whole⟩ :=
    Path.pieces_join filled proper.unslashed
  -- an empty piece after a slash at the end does not lead on
  have reached : disk.follows directory start = .ok location := by
    rw [walk_of_filled filled] at walked
    rcases whole with same | slashed
    · rw [← same, walked]
    · rw [slashed, follows_append_singleton] at walked
      cases before : disk.follows directory start with
      | error obstacle =>
          rw [before] at walked
          cases walked
      | ok place =>
          rw [before] at walked
          rw [eq_of_walkStep_empty walked]
  have sameStart :
      disk.follows (directory.join name) = disk.follows directory := by
    funext pieces
    rw [follows, follows, Path.isAbsolute_join filled]
  rw [walk_of_filled (Path.text_join_ne_empty filled name), sameStart,
    joined, follows_append_singleton, reached]
  exact walkStep_toUTF8 found proper

/-! ## Children -/

/-- A disk holds something at a location if that is one of its entries. -/
theorem node?_eq_some_iff
    (wellFormed : disk.WellFormed)
    (proper : location.names ≠ [])
    {node : Node} :
    disk.node? location = some node ↔ (location, node) ∈ disk.entries := by
  rw [node?, if_neg (by simpa using proper), Option.map_eq_some_iff]
  constructor
  · rintro ⟨entry, found, rfl⟩
    have place : entry.1 = location := by simpa using List.find?_some found
    rw [← place]
    exact List.mem_of_find?_eq_some found
  · intro present
    have isFound : (disk.entries.find? (·.1 = location)).isSome := by
      rw [List.find?_isSome]
      exact ⟨_, present, by simp⟩
    obtain ⟨entry, found⟩ := Option.isSome_iff_exists.mp isFound
    have place : entry.1 = location := by simpa using List.find?_some found
    have same : entry = (location, node) :=
      List.inj_on_of_nodup_map wellFormed.distinct
        (List.mem_of_find?_eq_some found) present place
    exact ⟨entry, found, by rw [same]⟩

/-- What an entry of a disk stands for in a directory, if it is a child. -/
def childAt? (location : Location) (entry : Location × Node) :
    Option (FileName × Node) :=
  match entry.1.names.getLast? with
  | some name =>
      if entry.1 = location.child name then some (name, entry.2) else none
  | none => none

theorem childAt?_eq_some_iff
    {entry : Location × Node}
    {name : FileName}
    {node : Node} :
    childAt? location entry = some (name, node) ↔
      entry = (location.child name, node) := by
  obtain ⟨place, held⟩ := entry
  constructor
  · intro known
    unfold childAt? at known
    split at known
    · split at known
      case isTrue below =>
        obtain ⟨rfl, rfl⟩ := Prod.mk.inj (Option.some.inj known)
        rw [← below]
      case isFalse => cases known
    · cases known
  · intro same
    cases same
    simp [childAt?, Location.child]

theorem children_eq (disk : Disk) (location : Location) :
    disk.children location =
      disk.entries.filterMap (childAt? location) := rfl

/-- The children of a directory are what is one name below it. -/
theorem mem_children_iff
    (wellFormed : disk.WellFormed)
    {name : FileName}
    {node : Node} :
    (name, node) ∈ disk.children location ↔
      disk.node? (location.child name) = some node := by
  rw [node?_eq_some_iff wellFormed (location.names_child_ne_nil name),
    children_eq, List.mem_filterMap]
  simp only [childAt?_eq_some_iff, exists_eq_right]

/-- Different children of a directory have different names. -/
theorem children_pairwise_ne
    (wellFormed : disk.WellFormed)
    (location : Location) :
    (disk.children location).Pairwise fun child other =>
      child.1 ≠ other.1 := by
  have distinct : disk.entries.Pairwise fun entry other =>
      entry.1 ≠ other.1 :=
    List.pairwise_map.mp wellFormed.distinct
  rw [children_eq]
  refine distinct.filterMap _ ?_
  intro entry other differ child known next nextKnown same
  rw [childAt?_eq_some_iff.mp known, childAt?_eq_some_iff.mp nextKnown]
    at differ
  exact differ (by rw [same])

/-! ## Files in a directory -/

/-- A path leads to a directory, in which a file has a name. -/
def HoldsFile
    (disk : Disk)
    (directory : Path)
    (name : FileName)
    (contents : ByteArray) : Prop :=
  ∃ location, disk.walk directory = .ok location ∧
    disk.node? location = some .directory ∧
    disk.node? (location.child name) = some (.file contents)

theorem exists_holdsFile_iff_exists_file {name : FileName} :
    (∃ contents, disk.HoldsFile directory name contents) ↔
      ∃ location, disk.walk directory = .ok location ∧
        disk.node? location = some .directory ∧
        ∃ contents, disk.node? (location.child name) = some (.file contents) :=
  ⟨fun ⟨contents, location, walked, found, file⟩ =>
      ⟨location, walked, found, contents, file⟩,
    fun ⟨location, walked, found, contents, file⟩ =>
      ⟨contents, location, walked, found, file⟩⟩

/-- What is listed are the children of a directory, or nothing for a file. -/
theorem directory_or_file_of_list?
    {listed : List (FileName × Node)}
    (lists : disk.list? directory = some listed) :
    ∃ location, disk.walk directory = .ok location ∧
      (disk.node? location = some .directory ∧
          listed = disk.children location ∨
        (∃ contents, disk.node? location = some (.file contents)) ∧
          listed = []) := by
  unfold list? at lists
  split at lists
  · cases lists
  case h_2 location walked =>
    refine ⟨location, walked, ?_⟩
    split at lists
    case h_1 => cases lists
    case h_2 contents file =>
      cases lists
      exact .inr ⟨⟨contents, file⟩, rfl⟩
    case h_3 found =>
      cases lists
      exact .inl ⟨found, rfl⟩

/-- The files that are listed in a directory are those that it holds. -/
theorem file_mem_iff_of_list?
    (wellFormed : disk.WellFormed)
    {listed : List (FileName × Node)}
    (lists : disk.list? directory = some listed)
    {name : FileName}
    {contents : ByteArray} :
    (name, .file contents) ∈ listed ↔
      disk.HoldsFile directory name contents := by
  obtain ⟨location, walked, ⟨found, rfl⟩ | ⟨⟨_, found⟩, rfl⟩⟩ :=
    directory_or_file_of_list? lists
  · rw [mem_children_iff wellFormed]
    simp [HoldsFile, walked, found]
  · simp [HoldsFile, walked, found]

/-- What is listed has different names. -/
theorem pairwise_ne_of_list?
    (wellFormed : disk.WellFormed)
    {listed : List (FileName × Node)}
    (lists : disk.list? directory = some listed) :
    listed.Pairwise fun child other => child.1 ≠ other.1 := by
  obtain ⟨location, -, ⟨-, rfl⟩ | ⟨-, rfl⟩⟩ :=
    directory_or_file_of_list? lists
  · exact children_pairwise_ne wellFormed location
  · exact .nil

/-- Nothing is listed along a path exactly when it does not lead anywhere. -/
theorem list?_eq_none_iff :
    disk.list? directory = none ↔
      ∀ location, disk.walk directory = .ok location →
        disk.node? location = none := by
  unfold list?
  cases disk.walk directory with
  | error obstacle => simp
  | ok location =>
      cases held : disk.node? location with
      | none => simp [held]
      | some node => cases node <;> simp [held]

/-- The names of files contain no slash. -/
theorem HoldsFile.unslashed
    (wellFormed : disk.WellFormed)
    {name : String}
    {contents : ByteArray}
    (holds : disk.HoldsFile directory name.toUTF8 contents) :
    '/' ∉ name.toList := by
  obtain ⟨location, -, -, file⟩ := holds
  have proper := location.names_child_ne_nil name.toUTF8
  have entry := (node?_eq_some_iff wellFormed proper).mp file
  rw [← Text.slashByte_mem_toUTF8_iff]
  exact wellFormed.named _ entry _ List.mem_concat_self

/-- A file in a directory is read along the path of the directory. -/
theorem HoldsFile.readBytes?_join
    {name : String}
    {contents : ByteArray}
    (holds : disk.HoldsFile directory name.toUTF8 contents)
    (proper : Path.IsFileName name) :
    disk.readBytes? (directory.join name) = some contents := by
  obtain ⟨location, walked, found, file⟩ := holds
  have located :
      disk.fileLocation (directory.join name) =
        .ok (location.child name.toUTF8) := by
    rw [fileLocation, walk_join walked found proper]
    simp only [bind, Except.bind, file]
    rfl
  simp only [readBytes?, located, file]

end Disk
end RCompletion
