import RCompletion.Proofs.Disk.Directory
import RCompletion.Proofs.Listing.Respaced

/-!
# Rewritten disks

A disk may hold the same in another order, and texts with other blanks between
their rows in some of its files.  Paths lead to the same places on both disks,
and what is read as a listing gives the same candidates.
-/

namespace RCompletion

/-- What is held somewhere may be a text with other blanks between its rows. -/
inductive Node.Respaced : Node → Node → Prop
  /-- Nothing is written. -/
  | same (node : Node) : Respaced node node
  /-- A text is written with other blanks. -/
  | file {text other : String} (respaced : Listing.Respaced text other) :
      Respaced (.file text.toUTF8) (.file other.toUTF8)

namespace Disk

/-- The entries of a disk in any order, some with other blanks in their texts. -/
def Rewritten (disk other : Disk) : Prop :=
  ∃ rewrite : Location → Node → Node,
    (∀ entry ∈ disk.entries, entry.2.Respaced (rewrite entry.1 entry.2)) ∧
      other.entries.Perm
        (disk.entries.map fun entry => (entry.1, rewrite entry.1 entry.2))

/-- The order of the entries does not count. -/
theorem rewritten_of_perm
    {disk other : Disk}
    (permuted : other.entries.Perm disk.entries) :
    disk.Rewritten other :=
  ⟨fun _ node => node, fun entry _ => .same entry.2, by simpa using permuted⟩

/-- A disk is rewritten when a text is put back with other blanks. -/
theorem rewritten_put
    {disk : Disk}
    (wellFormed : disk.WellFormed)
    {location : Location}
    {text other : String}
    (held : disk.node? location = some (.file text.toUTF8))
    (respaced : Listing.Respaced text other) :
    disk.Rewritten (disk.put location (.file other.toUTF8)) := by
  have proper : location.names ≠ [] := by
    intro isOrigin
    simp [node?, isOrigin] at held
  have present := (node?_eq_some_iff wellFormed proper).mp held
  refine ⟨fun place node =>
    if place = location then .file other.toUTF8 else node, ?_,
    entries_put_perm wellFormed present proper _⟩
  rintro ⟨place, node⟩ known
  dsimp only
  split
  case isTrue here =>
    subst here
    rw [(node?_eq_some_iff wellFormed proper).mpr known] at held
    rw [Option.some.inj held]
    exact .file respaced
  case isFalse => exact .same node

namespace Rewritten

variable {disk other : Disk}

/-- The locations in use stay the same. -/
theorem wellFormed
    (rewritten : disk.Rewritten other)
    (wellFormed : disk.WellFormed) :
    other.WellFormed := by
  obtain ⟨rewrite, -, rewrites⟩ := rewritten
  have places := rewrites.map (·.1)
  rw [List.map_map] at places
  constructor
  case distinct => exact places.nodup_iff.mpr wellFormed.distinct
  case named =>
    intro entry present
    obtain ⟨before, listed, rfl⟩ := List.mem_map.mp (rewrites.mem_iff.mp present)
    exact wellFormed.named before listed

/-- What is held at a location is at most respaced. -/
theorem node?_respaced
    (rewritten : disk.Rewritten other)
    (wellFormed : disk.WellFormed)
    (location : Location) :
    Option.Rel Node.Respaced (disk.node? location) (other.node? location) := by
  by_cases isOrigin : location.names = []
  case pos =>
    simp only [node?, isOrigin, List.isEmpty_nil, if_true]
    exact .some (.same _)
  case neg =>
    have otherWellFormed := rewritten.wellFormed wellFormed
    obtain ⟨rewrite, respaces, rewrites⟩ := rewritten
    cases held : disk.node? location with
    | some node =>
        have present := (node?_eq_some_iff wellFormed isOrigin).mp held
        have written : (location, rewrite location node) ∈ other.entries :=
          rewrites.mem_iff.mpr (List.mem_map.mpr ⟨_, present, rfl⟩)
        rw [(node?_eq_some_iff otherWellFormed isOrigin).mpr written]
        exact .some (respaces _ present)
    | none =>
        cases kept : other.node? location with
        | none => exact .none
        | some node =>
            have present :=
              (node?_eq_some_iff otherWellFormed isOrigin).mp kept
            obtain ⟨⟨place, before⟩, listed, same⟩ :=
              List.mem_map.mp (rewrites.mem_iff.mp present)
            obtain ⟨rfl, -⟩ := Prod.mk.inj same
            rw [(node?_eq_some_iff wellFormed isOrigin).mpr listed] at held
            cases held

section

variable
  (rewritten : disk.Rewritten other)
  (wellFormed : disk.WellFormed)

include rewritten wellFormed

/-- Nothing, a directory and a file stay what they are. -/
theorem node?_cases (location : Location) :
    (disk.node? location = none ∧ other.node? location = none) ∨
      (disk.node? location = some .directory ∧
        other.node? location = some .directory) ∨
      ∃ before after, disk.node? location = some (.file before) ∧
        other.node? location = some (.file after) ∧
        Node.Respaced (.file before) (.file after) := by
  have respaced := rewritten.node?_respaced wellFormed location
  generalize disk.node? location = held at *
  generalize other.node? location = heldAfter at *
  cases respaced with
  | none => exact .inl ⟨rfl, rfl⟩
  | @some node nodeAfter respaced =>
      cases node with
      | directory =>
          cases respaced
          exact .inr (.inl ⟨rfl, rfl⟩)
      | file before =>
          cases nodeAfter with
          | directory => cases respaced
          | file after =>
              exact .inr (.inr ⟨before, after, rfl, rfl, respaced⟩)

theorem walk_eq : other.walk = disk.walk := by
  have step : other.walkStep = disk.walkStep := by
    funext location piece
    rw [walkStep, walkStep]
    rcases rewritten.node?_cases wellFormed location with
      ⟨held, kept⟩ | ⟨held, kept⟩ | ⟨before, after, held, kept, -⟩
    all_goals rw [held, kept]
  funext path
  rw [walk, walk, step]

/-- Files and directories are found where they were before. -/
theorem list?_eq_none_iff {directory : Path} :
    other.list? directory = none ↔ disk.list? directory = none := by
  rw [Disk.list?_eq_none_iff, Disk.list?_eq_none_iff,
    rewritten.walk_eq wellFormed]
  refine forall₂_congr fun location _ => ?_
  rcases rewritten.node?_cases wellFormed location with
    ⟨held, kept⟩ | ⟨held, kept⟩ | ⟨before, after, held, kept, -⟩
  all_goals simp [held, kept]

theorem exists_holdsFile_iff {directory : Path} {name : FileName} :
    (∃ contents, other.HoldsFile directory name contents) ↔
      ∃ contents, disk.HoldsFile directory name contents := by
  have sameDirectories (location : Location) :
      other.node? location = some .directory ↔
        disk.node? location = some .directory := by
    rcases rewritten.node?_cases wellFormed location with
      ⟨held, kept⟩ | ⟨held, kept⟩ | ⟨before, after, held, kept, -⟩
    all_goals simp [held, kept]
  have sameFiles (location : Location) :
      (∃ contents, other.node? location = some (.file contents)) ↔
        ∃ contents, disk.node? location = some (.file contents) := by
    rcases rewritten.node?_cases wellFormed location with
      ⟨held, kept⟩ | ⟨held, kept⟩ | ⟨before, after, held, kept, -⟩
    all_goals simp [held, kept]
  rw [exists_holdsFile_iff_exists_file, exists_holdsFile_iff_exists_file,
    rewritten.walk_eq wellFormed]
  simp only [sameDirectories, sameFiles]

/-- A listing gives the same candidates if it is rewritten. -/
theorem map_readText? (path : Path) :
    (other.readText? path).map (Listing.candidates ∘ Listing.recordsOfText) =
      (disk.readText? path).map
        (Listing.candidates ∘ Listing.recordsOfText) := by
  unfold readText? readBytes? fileLocation
  rw [rewritten.walk_eq wellFormed]
  cases disk.walk path with
  | error obstacle => rfl
  | ok location =>
      simp only [bind, Except.bind]
      rcases rewritten.node?_cases wellFormed location with
        ⟨held, kept⟩ | ⟨held, kept⟩ | ⟨before, after, held, kept, respaced⟩
      · rw [held, kept]
        rfl
      · rw [held, kept]
        rfl
      · simp only [held, kept, pure, Except.pure]
        cases respaced with
        | same => rfl
        | file respaced =>
            simp only [Option.bind_some, Text.fromUTF8?_toUTF8,
              Option.map_some, Function.comp_apply, respaced.candidates_eq]

end

end Rewritten
end Disk
end RCompletion
