import RCompletion.Disk.Basic
import RCompletion.Proofs.Text.Bytes
import RCompletion.Proofs.Text.Fields
import Mathlib.Data.List.Nodup

/-!
# Well-formed disks

On a disk that an operating system shows, every location holds one thing, and
no name contains a slash.  The empty disk is well-formed, and it stays so when
files and directories are put on it along paths or taken away.
-/

namespace RCompletion

namespace Location

/-- No name on the way to a location contains a slash. -/
def IsNamed (location : Location) : Prop :=
  ∀ name ∈ location.names, Text.slashByte ∉ name.data.toList

theorem isNamed_origin (absolute : Bool) : (origin absolute).IsNamed :=
  fun _ nothing => absurd nothing List.not_mem_nil

theorem IsNamed.child
    {location : Location}
    (named : location.IsNamed)
    {name : FileName}
    (absent : Text.slashByte ∉ name.data.toList) :
    (location.child name).IsNamed := by
  intro other present
  rcases List.mem_append.mp present with above | same
  · exact named other above
  · rw [List.mem_singleton.mp same]
    exact absent

/-- Locations with fewer names have no other ones. -/
theorem IsNamed.of_subset
    {location other : Location}
    (named : location.IsNamed)
    (fewer : other.names ⊆ location.names) :
    other.IsNamed :=
  fun name present => named name (fewer present)

theorem IsNamed.follow
    {location : Location}
    (named : location.IsNamed)
    {piece : FileName}
    (absent : Text.slashByte ∉ piece.data.toList) :
    (location.follow piece).IsNamed := by
  have upward : (location.child "..".toUTF8).IsNamed :=
    named.child (by decide)
  fun_cases Location.follow location piece with
  | case1 => exact named
  | case2 => exact named
  | case3 => exact upward
  | case4 => exact upward
  | case5 => exact named.of_subset (List.dropLast_subset _)
  | case6 => exact named.child absent

theorem IsNamed.foldl_follow
    {location : Location}
    (named : location.IsNamed)
    {pieces : List FileName}
    (absent : ∀ piece ∈ pieces, Text.slashByte ∉ piece.data.toList) :
    (pieces.foldl Location.follow location).IsNamed := by
  induction pieces generalizing location with
  | nil => exact named
  | cons piece pieces inductionHypothesis =>
      obtain ⟨first, rest⟩ := List.forall_mem_cons.mp absent
      exact inductionHypothesis (named.follow first) rest

/-- The pieces of a path lead to locations whose names contain no slash. -/
theorem isNamed_ofPieces
    (absolute : Bool)
    {path : Path}
    {pieces : List String}
    (known : pieces ⊆ path.pieces) :
    (ofPieces absolute (pieces.map String.toUTF8)).IsNamed := by
  refine (isNamed_origin absolute).foldl_follow fun name present => ?_
  obtain ⟨piece, listed, rfl⟩ := List.mem_map.mp present
  rw [Text.slashByte_mem_toUTF8_iff]
  exact Text.not_mem_of_mem_fields (known listed)

theorem isNamed_ofPath (path : Path) : (ofPath path).IsNamed :=
  isNamed_ofPieces path.isAbsolute (List.Subset.refl _)

theorem isNamed_of_mem_stops
    {path : Path}
    {location : Location}
    (stop : location ∈ stops path) :
    location.IsNamed := by
  obtain ⟨count, -, rfl⟩ := List.mem_map.mp stop
  exact isNamed_ofPieces path.isAbsolute (List.take_subset count _)

theorem IsNamed.of_mem_above
    {location other : Location}
    (named : location.IsNamed)
    (higher : other ∈ location.above) :
    other.IsNamed := by
  obtain ⟨count, -, rfl⟩ := List.mem_map.mp higher
  exact named.of_subset (List.take_subset count _)

end Location

namespace Disk

/-- Every location holds one thing, and no name contains a slash. -/
structure WellFormed (disk : Disk) : Prop where
  distinct : (disk.entries.map (·.1)).Nodup
  named : ∀ entry ∈ disk.entries, entry.1.IsNamed

variable {disk : Disk}

theorem wellFormed_empty : empty.WellFormed where
  distinct := List.nodup_nil
  named := fun _ nothing => absurd nothing List.not_mem_nil

/-- Taking things away keeps a disk well-formed. -/
theorem WellFormed.filter
    (wellFormed : disk.WellFormed)
    (keeps : Location × Node → Bool) :
    WellFormed ⟨disk.entries.filter keeps⟩ where
  distinct :=
    wellFormed.distinct.sublist (List.filter_sublist.map _)
  named := fun entry present =>
    wellFormed.named entry (List.mem_of_mem_filter present)

theorem WellFormed.erase
    (wellFormed : disk.WellFormed)
    (location : Location) :
    (disk.erase location).WellFormed :=
  wellFormed.filter _

theorem WellFormed.prune
    (wellFormed : disk.WellFormed)
    (location : Location) :
    (disk.prune location).WellFormed :=
  wellFormed.filter _

theorem WellFormed.unlink
    (wellFormed : disk.WellFormed)
    {path : Path}
    {left : Disk}
    (unlinked : disk.unlink path = .ok left) :
    left.WellFormed := by
  unfold Disk.unlink at unlinked
  cases found : disk.fileLocation path with
  | error obstacle =>
      rw [found] at unlinked
      cases unlinked
  | ok location =>
      rw [found] at unlinked
      cases unlinked
      exact wellFormed.erase location

/-- Putting something at a named location keeps a disk well-formed. -/
theorem WellFormed.put
    (wellFormed : disk.WellFormed)
    {location : Location}
    (named : location.IsNamed)
    (node : Node) :
    (disk.put location node).WellFormed := by
  unfold Disk.put
  split
  · exact wellFormed
  · have erased := wellFormed.erase location
    constructor
    case distinct =>
      have unused : location ∉ (disk.erase location).entries.map (·.1) := by
        simp [Disk.erase]
      rw [List.map_append, List.map_singleton, ← List.concat_eq_append]
      exact erased.distinct.concat unused
    case named =>
      intro entry present
      rcases List.mem_append.mp present with kept | added
      · exact erased.named entry kept
      · rw [List.mem_singleton.mp added]
        exact named

/-- Putting something where something was puts it in its place. -/
theorem entries_put_perm
    (wellFormed : disk.WellFormed)
    {location : Location}
    {before : Node}
    (present : (location, before) ∈ disk.entries)
    (proper : location.names ≠ [])
    (node : Node) :
    (disk.put location node).entries.Perm
      (disk.entries.map fun entry =>
        (entry.1, if entry.1 = location then node else entry.2)) := by
  have putWellFormed :=
    wellFormed.put (wellFormed.named _ present) node
  have nodup :
      (disk.entries.map fun entry =>
        (entry.1, if entry.1 = location then node else entry.2)).Nodup := by
    refine .of_map (·.1) ?_
    rw [List.map_map]
    exact wellFormed.distinct
  -- no entry is repeated on either side, so that members can be compared
  refine (List.perm_ext_iff_of_nodup
    (.of_map (·.1) putWellFormed.distinct) nodup).mpr ?_
  rintro ⟨place, held⟩
  rw [Disk.put, if_neg (by simpa using proper)]
  by_cases here : place = location
  case pos =>
    have somewhere : ∃ held, (place, held) ∈ disk.entries :=
      ⟨before, here ▸ present⟩
    subst here
    simp [Disk.erase, somewhere, eq_comm]
  case neg => simp [Disk.erase, here]

theorem WellFormed.makeDirectory
    (wellFormed : disk.WellFormed)
    {location : Location}
    (named : location.IsNamed) :
    (disk.makeDirectory location).WellFormed := by
  unfold Disk.makeDirectory
  split
  · exact wellFormed.put named _
  · exact wellFormed

/-- Steps that keep a disk well-formed do so one after the other. -/
theorem WellFormed.foldl
    {step : Disk → Location → Disk}
    (keeps : ∀ disk location,
      disk.WellFormed → location.IsNamed → (step disk location).WellFormed)
    (wellFormed : disk.WellFormed)
    {locations : List Location}
    (named : ∀ location ∈ locations, location.IsNamed) :
    (locations.foldl step disk).WellFormed := by
  induction locations generalizing disk with
  | nil => exact wellFormed
  | cons location locations inductionHypothesis =>
      obtain ⟨first, rest⟩ := List.forall_mem_cons.mp named
      exact inductionHypothesis (keeps _ _ wellFormed first) rest

/-- Directories that are made on the way keep a disk well-formed. -/
theorem WellFormed.makeDirectories
    (wellFormed : disk.WellFormed)
    {locations : List Location}
    (named : ∀ location ∈ locations, location.IsNamed) :
    (locations.foldl Disk.makeDirectory disk).WellFormed :=
  wellFormed.foldl (fun _ _ wellFormed => wellFormed.makeDirectory) named

theorem WellFormed.insert
    (wellFormed : disk.WellFormed)
    {location : Location}
    (named : location.IsNamed)
    (node : Node) :
    (disk.insert location node).WellFormed :=
  (wellFormed.makeDirectories fun _ => named.of_mem_above).put named node

theorem WellFormed.insertDirectory
    (wellFormed : disk.WellFormed)
    {location : Location}
    (named : location.IsNamed) :
    (disk.insertDirectory location).WellFormed :=
  (wellFormed.makeDirectories
    fun _ => named.of_mem_above).makeDirectory named

/-- The stops of a path are made before what it leads to. -/
theorem WellFormed.insertStops
    (wellFormed : disk.WellFormed)
    (path : Path) :
    ((Location.stops path).foldl Disk.insertDirectory disk).WellFormed :=
  wellFormed.foldl (fun _ _ wellFormed => wellFormed.insertDirectory)
    fun _ => Location.isNamed_of_mem_stops

/-- A file that is put where a path leads keeps a disk well-formed. -/
theorem WellFormed.insertFile
    (wellFormed : disk.WellFormed)
    (path : Path)
    (contents : ByteArray) :
    (disk.insertFile path contents).WellFormed :=
  (wellFormed.insertStops path).insert (Location.isNamed_ofPath path) _

/-- A directory that is made where a path leads keeps a disk well-formed. -/
theorem WellFormed.insertDirectoryAt
    (wellFormed : disk.WellFormed)
    (path : Path) :
    (disk.insertDirectoryAt path).WellFormed :=
  (wellFormed.insertStops path).insertDirectory
    (Location.isNamed_ofPath path)

end Disk
end RCompletion
