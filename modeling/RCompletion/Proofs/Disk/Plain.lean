import RCompletion.Proofs.Disk.Directory
import Mathlib.Data.List.Induction

/-!
# Plain paths

A plain path is relative, consists of names and ends with one.  Repeated slashes
and dots between the names make no difference to where it leads: to the location
of its names, if there are directories all the way down to it.
-/

namespace RCompletion

namespace Path

/-- Whether a piece of a path is neither empty nor a dot. -/
def leadsOn (piece : String) : Bool :=
  !(piece == "" || piece == ".")

/-- The pieces of a path that lead on. -/
def names (path : Path) : List String :=
  path.pieces.filter leadsOn

/-- A path consists of names and ends with one. -/
structure IsPlain (path : Path) : Prop where
  named : ∀ part ∈ path.parts, ∃ name, part = .name name
  ended : ∀ piece ∈ path.pieces.getLast?, leadsOn piece = true

instance (part : Part) : Decidable (∃ name, part = .name name) :=
  match part with
  | .name text => isTrue ⟨text, rfl⟩
  | .root => isFalse nofun
  | .here => isFalse nofun
  | .up => isFalse nofun

instance (path : Path) : Decidable path.IsPlain :=
  decidable_of_iff
    ((∀ part ∈ path.parts, ∃ name, part = .name name) ∧
      ∀ piece ∈ path.pieces.getLast?, leadsOn piece = true)
    ⟨fun ⟨named, ended⟩ => ⟨named, ended⟩,
      fun plain => ⟨plain.named, plain.ended⟩⟩

variable {path other : Path}

theorem same_trans
    {third : Path}
    (first : path.same other = true)
    (second : other.same third = true) :
    path.same third = true := by
  simp only [same, beq_iff_eq] at *
  exact first.trans second

/-! ## Names -/

theorem leadsOn_eq_false_iff {piece : String} :
    leadsOn piece = false ↔ piece = "" ∨ piece = "." := by
  simp [leadsOn, or_iff_not_imp_left]

/-- A piece that leads on, and not upward, is a name. -/
theorem partOfPiece?_of_ne_up {piece : String} (notUp : piece ≠ "..") :
    partOfPiece? piece =
      if leadsOn piece then some (.name piece) else none := by
  by_cases blank : piece = "" ∨ piece = "."
  · rw [partOfPiece?, if_pos blank, leadsOn_eq_false_iff.mpr blank]
    rfl
  · have leads : leadsOn piece = true := by
      rwa [← Bool.not_eq_false, leadsOn_eq_false_iff]
    rw [partOfPiece?, if_neg blank, if_neg notUp, if_pos leads]

theorem mem_parts_of_mem_pieces
    {piece : String}
    (present : piece ∈ path.pieces)
    {part : Part}
    (counts : partOfPiece? piece = some part) :
    part ∈ path.parts :=
  List.mem_append_right _ (List.mem_filterMap.mpr ⟨piece, present, counts⟩)

namespace IsPlain

theorem up_not_mem (plain : path.IsPlain) : ".." ∉ path.pieces := by
  intro present
  obtain ⟨name, up⟩ := plain.named .up (mem_parts_of_mem_pieces present rfl)
  cases up

theorem isAbsolute_eq_false (plain : path.IsPlain) :
    path.isAbsolute = false := by
  rw [← Bool.not_eq_true]
  intro absolute
  obtain ⟨name, root⟩ := plain.named .root (by simp [parts, absolute])
  cases root

/-- What leads on in a plain path can be the name of a file. -/
theorem isFileName
    (plain : path.IsPlain)
    {name : String}
    (present : name ∈ path.names) :
    IsFileName name := by
  obtain ⟨listed, leads⟩ := List.mem_filter.mp present
  obtain ⟨filled, notHere⟩ : name ≠ "" ∧ name ≠ "." := by
    simpa [leadsOn] using leads
  exact ⟨filled, notHere, fun up => plain.up_not_mem (up ▸ listed),
    Text.not_mem_of_mem_fields listed⟩

/-- The parts of a plain path are its names. -/
theorem parts_eq (plain : path.IsPlain) :
    path.parts = path.names.map .name := by
  have notHere : path.pieces.head? ≠ some "." := by
    intro here
    obtain ⟨name, dot⟩ := plain.named .here (by
      simp [parts, plain.isAbsolute_eq_false, here])
    cases dot
  have counted :
      path.pieces.filterMap partOfPiece? =
        path.pieces.filterMap fun piece =>
          if leadsOn piece then some (.name piece) else none := by
    refine List.filterMap_congr fun piece present => partOfPiece?_of_ne_up ?_
    exact fun up => plain.up_not_mem (up ▸ present)
  rw [parts, if_neg (by simp [plain.isAbsolute_eq_false]), if_neg notHere,
    List.nil_append, counted, names, ← List.filterMap_eq_map,
    List.filterMap_filter]
  rfl

/-- Plain paths are the same when they have the same names. -/
theorem same_iff (plain : path.IsPlain) (otherPlain : other.IsPlain) :
    path.same other = true ↔ path.names = other.names := by
  have injective : Function.Injective (List.map Part.name) :=
    List.map_injective_iff.mpr fun _ _ => Part.name.inj
  rw [same, beq_iff_eq, plain.parts_eq, otherPlain.parts_eq,
    injective.eq_iff]

end IsPlain

end Path

namespace Location

theorem follow_of_not_leadsOn
    (location : Location)
    {piece : String}
    (stays : Path.leadsOn piece = false) :
    location.follow piece.toUTF8 = location := by
  rcases Path.leadsOn_eq_false_iff.mp stays with rfl | rfl
  all_goals simp [follow]

/-- Names lead down, and what does not lead on leads nowhere else. -/
theorem foldl_follow
    {pieces : List String}
    (proper : ∀ name ∈ pieces.filter Path.leadsOn, Path.IsFileName name)
    (location : Location) :
    (pieces.map String.toUTF8).foldl follow location =
      { location with
        names := location.names ++
          (pieces.filter Path.leadsOn).map String.toUTF8 } := by
  induction pieces generalizing location with
  | nil => simp
  | cons piece pieces inductionHypothesis =>
      rw [List.map_cons, List.foldl_cons]
      by_cases leads : Path.leadsOn piece = true
      case pos =>
        rw [List.filter_cons_of_pos leads] at proper ⊢
        obtain ⟨first, rest⟩ := List.forall_mem_cons.mp proper
        rw [inductionHypothesis rest, location.follow_toUTF8 first]
        simp [child]
      case neg =>
        rw [List.filter_cons_of_neg leads] at proper ⊢
        rw [inductionHypothesis proper,
          location.follow_of_not_leadsOn (by simpa using leads)]

/-- A plain path leads to the location of its names. -/
theorem ofPath_of_isPlain {path : Path} (plain : path.IsPlain) :
    ofPath path = ⟨false, path.names.map String.toUTF8⟩ := by
  rw [ofPath, ofPieces, foldl_follow fun name => plain.isFileName,
    plain.isAbsolute_eq_false]
  rfl

/-- Plain paths lead to the same location exactly when they are the same. -/
theorem ofPath_eq_iff_same
    {path other : Path}
    (plain : path.IsPlain)
    (otherPlain : other.IsPlain) :
    ofPath path = ofPath other ↔ path.same other = true := by
  have injective : Function.Injective (List.map String.toUTF8) :=
    List.map_injective_iff.mpr fun _ _ => by
      simp only [String.toUTF8_eq_toByteArray, String.toByteArray_inj, imp_self]
  rw [ofPath_of_isPlain plain, ofPath_of_isPlain otherPlain, mk.injEq,
    injective.eq_iff, plain.same_iff otherPlain]
  simp

/-- Below a location are those below its directory, and then the directory. -/
theorem above_child (location : Location) (name : FileName) :
    (location.child name).above = location.above ++ [location] := by
  have higher (count : Nat) (inside : count ∈ List.range location.names.length) :
      ({ location.child name with
          names := (location.child name).names.take count } : Location) =
        { location with names := location.names.take count } := by
    rw [List.mem_range] at inside
    simp [child, List.take_append_of_le_length (Nat.le_of_lt inside)]
  rw [above, child, List.length_append, List.length_singleton,
    List.range_succ, List.map_append]
  refine congrArg₂ _ (List.map_congr_left higher) ?_
  simp

end Location

namespace Disk

variable {disk : Disk}

/-! ## What is at a location -/

/-- There are directories all the way down to a location. -/
def Reaches (disk : Disk) (location : Location) : Prop :=
  ∀ higher ∈ location.above, disk.node? higher = some .directory

/-- A directory is at a location, below directories. -/
def HasDirectory (disk : Disk) (location : Location) : Prop :=
  disk.Reaches location ∧ disk.node? location = some .directory

/-- A file is at a location, below directories. -/
def HasFile (disk : Disk) (location : Location) : Prop :=
  disk.Reaches location ∧
    ∃ contents, disk.node? location = some (.file contents)

instance (disk : Disk) (location : Location) :
    Decidable (disk.Reaches location) :=
  List.decidableBAll _ location.above

instance (disk : Disk) (location : Location) :
    Decidable (disk.HasDirectory location) :=
  inferInstanceAs (Decidable (_ ∧ _))

instance (node : Option Node) :
    Decidable (∃ contents, node = some (.file contents)) :=
  match node with
  | none => isFalse fun ⟨_, same⟩ => nomatch same
  | some .directory => isFalse fun ⟨_, same⟩ => nomatch same
  | some (.file contents) => isTrue ⟨contents, rfl⟩

instance (disk : Disk) (location : Location) :
    Decidable (disk.HasFile location) :=
  inferInstanceAs (Decidable (_ ∧ _))

theorem reaches_child_iff {location : Location} {name : FileName} :
    disk.Reaches (location.child name) ↔
      disk.HasDirectory location := by
  rw [Reaches, Location.above_child, List.forall_mem_append]
  simp [HasDirectory, Reaches]

theorem exists_hasFile_above_child_iff
    {location : Location}
    {name : FileName} :
    (∃ higher ∈ (location.child name).above, disk.HasFile higher) ↔
      (∃ higher ∈ location.above, disk.HasFile higher) ∨
        disk.HasFile location := by
  rw [Location.above_child]
  simp [or_and_right, exists_or]

/-- Below directories there is no file on the way. -/
theorem Reaches.not_hasFile
    {location : Location}
    (reaches : disk.Reaches location)
    {higher : Location}
    (above : higher ∈ location.above) :
    ¬ disk.HasFile higher := by
  rintro ⟨-, contents, held⟩
  rw [reaches higher above] at held
  cases held

theorem Reaches.not_exists_hasFile
    {location : Location}
    (reaches : disk.Reaches location) :
    ¬ ∃ higher ∈ location.above, disk.HasFile higher := by
  rintro ⟨higher, above, file⟩
  exact reaches.not_hasFile above file

theorem HasFile.not_hasDirectory
    {location : Location}
    (file : disk.HasFile location) :
    ¬ disk.HasDirectory location := by
  rintro ⟨-, directory⟩
  obtain ⟨-, contents, held⟩ := file
  rw [directory] at held
  cases held

/-! ## Walking along plain paths -/

theorem walkStep_of_none
    {location : Location}
    (nothing : disk.node? location = none)
    (piece : FileName) :
    disk.walkStep location piece = .error .missing := by
  rw [walkStep, nothing]

theorem walkStep_of_file
    {location : Location}
    {contents : ByteArray}
    (file : disk.node? location = some (.file contents))
    (piece : FileName) :
    disk.walkStep location piece = .error .notDirectory := by
  rw [walkStep, file]

theorem walkStep_of_directory
    {location : Location}
    (directory : disk.node? location = some .directory)
    (piece : FileName) :
    disk.walkStep location piece = .ok (location.follow piece) := by
  rw [walkStep, directory]

/-- What does not lead on makes no difference before something that does. -/
theorem foldlM_walkStep_filter
    {pieces : List String}
    (ended : ∀ piece ∈ pieces.getLast?, Path.leadsOn piece = true)
    (location : Location) :
    (pieces.map String.toUTF8).foldlM disk.walkStep location =
      ((pieces.filter Path.leadsOn).map String.toUTF8).foldlM
        disk.walkStep location := by
  induction pieces generalizing location with
  | nil => rfl
  | cons piece pieces inductionHypothesis =>
      have later : pieces ≠ [] →
          ∀ piece ∈ pieces.getLast?, Path.leadsOn piece = true := by
        intro filled
        rwa [List.getLast?_cons_of_ne_nil filled] at ended
      by_cases leads : Path.leadsOn piece = true
      case pos =>
        rw [List.filter_cons_of_pos leads, List.map_cons, List.map_cons,
          List.foldlM_cons, List.foldlM_cons]
        congr 1
        funext next
        by_cases filled : pieces = []
        · rw [filled]
          rfl
        · exact inductionHypothesis (later filled) next
      case neg =>
        have stays := location.follow_of_not_leadsOn (by simpa using leads)
        -- a last piece leads on, so that another one follows
        cases pieces with
        | nil => exact absurd (ended piece rfl) leads
        | cons next pieces =>
            rw [List.filter_cons_of_neg leads,
              ← inductionHypothesis (later (List.cons_ne_nil _ _)) location]
            rw [List.map_cons, List.foldlM_cons]
            cases held : disk.node? location with
            | none =>
                simp only [List.map_cons, List.foldlM_cons,
                  walkStep_of_none held]
                rfl
            | some node =>
                cases node with
                | directory =>
                    rw [walkStep_of_directory held, stays]
                    rfl
                | file contents =>
                    simp only [List.map_cons, List.foldlM_cons,
                      walkStep_of_file held]
                    rfl

/-- Names lead down as far as there are directories. -/
theorem follows_eq
    (disk : Disk)
    (path : Path)
    {names : List String}
    (proper : ∀ name ∈ names, Path.IsFileName name) :
    let location : Location :=
      ⟨path.isAbsolute, names.map String.toUTF8⟩
    disk.follows path names =
      if disk.Reaches location then
        .ok location
      else if ∃ higher ∈ location.above, disk.HasFile higher then
        .error .notDirectory
      else
        .error .missing := by
  induction names using List.reverseRecOn with
  | nil =>
      have reaches : disk.Reaches ⟨path.isAbsolute, []⟩ := by
        simp [Reaches, Location.above]
      exact (if_pos reaches).symm
  | append_singleton names name inductionHypothesis =>
      intro location
      have before : ∀ name ∈ names, Path.IsFileName name :=
        fun name present => proper name (List.mem_append_left _ present)
      have isName := proper name List.mem_concat_self
      let directory : Location :=
        ⟨path.isAbsolute, names.map String.toUTF8⟩
      have below : location = directory.child name.toUTF8 := by
        simp [location, directory, Location.child]
      rw [follows_append_singleton, inductionHypothesis before, below]
      simp only [reaches_child_iff, exists_hasFile_above_child_iff]
      by_cases reaches : disk.Reaches directory
      case pos =>
        rw [if_pos reaches]
        change disk.walkStep directory name.toUTF8 = _
        cases held : disk.node? directory with
        | none =>
            have noDirectory : ¬ disk.HasDirectory directory := by
              simp [HasDirectory, held]
            have noFile : ¬ disk.HasFile directory := by
              simp [HasFile, held]
            rw [walkStep_of_none held, if_neg noDirectory,
              if_neg (not_or.mpr ⟨reaches.not_exists_hasFile, noFile⟩)]
        | some node =>
            cases node with
            | directory =>
                rw [walkStep_toUTF8 held isName, if_pos ⟨reaches, held⟩]
            | file contents =>
                have file : disk.HasFile directory :=
                  ⟨reaches, contents, held⟩
                rw [walkStep_of_file held, if_neg file.not_hasDirectory,
                  if_pos (.inr file)]
      case neg =>
        have noDirectory : ¬ disk.HasDirectory directory :=
          fun there => reaches there.1
        have noFile : ¬ disk.HasFile directory :=
          fun there => reaches there.1
        rw [if_neg reaches, if_neg noDirectory]
        simp only [noFile, or_false]
        split
        all_goals rfl

/-- What a plain path leads to: a file, or something that is in the way. -/
theorem fileLocation_of_isPlain {path : Path} (plain : path.IsPlain) :
    disk.fileLocation path =
      if disk.HasFile (Location.ofPath path) then
        .ok (Location.ofPath path)
      else if disk.HasDirectory (Location.ofPath path) then
        .error .isDirectory
      else if ∃ higher ∈ (Location.ofPath path).above,
          disk.HasFile higher then
        .error .notDirectory
      else
        .error .missing := by
  have filled : path.text ≠ "" := by
    intro empty
    have ended := plain.ended "" (by simp [Path.pieces, empty, Text.fields])
    simp [Path.leadsOn] at ended
  have walked := disk.follows_eq path fun name => plain.isFileName
  rw [plain.isAbsolute_eq_false, ← Location.ofPath_of_isPlain plain] at walked
  rw [fileLocation, walk_of_filled filled, follows,
    foldlM_walkStep_filter plain.ended]
  change (disk.follows path path.names >>= _) = _
  rw [walked]
  generalize Location.ofPath path = location
  by_cases reaches : disk.Reaches location
  case pos =>
    rw [if_pos reaches, if_neg reaches.not_exists_hasFile]
    simp only [HasDirectory, HasFile, reaches, true_and, bind, Except.bind]
    rcases disk.node? location with _ | _ | contents
    all_goals simp
    all_goals rfl
  case neg =>
    have noDirectory : ¬ disk.HasDirectory location :=
      fun there => reaches there.1
    have noFile : ¬ disk.HasFile location :=
      fun there => reaches there.1
    rw [if_neg reaches, if_neg noFile, if_neg noDirectory]
    split
    all_goals rfl

end Disk
end RCompletion
