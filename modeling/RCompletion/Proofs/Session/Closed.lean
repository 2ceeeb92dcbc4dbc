import RCompletion.Proofs.Disk.Removed
import RCompletion.Session.Nvimcom

/-!
# Closed sessions

A session that is driven through nvimcom keeps every path that was registered
with it once, in the order in which they came, whatever else it is asked for and
whether that succeeds.  Closing it removes the files at these paths one after the
other.  The disk is then the same but for these files, and notice is given of
each path that something else than a missing file stands in the way of.
-/

namespace RCompletion
namespace Session

/-! ## Runs -/

/-- What a session can be asked for. -/
inductive Call where
  /-- It is started. -/
  | start
  /-- Lines of an expression are to be written to a file. -/
  | requestLines (expression : String) (destination : Path)
  /-- The objects are to be listed in a file. -/
  | requestObjects (destination : Path)
  /-- A file is marked for removal. -/
  | register (path : Path)

/-- The path that a call registers, if it registers one. -/
def Call.registered? : Call → Option Path
  | .register path => some path
  | _ => none

/-- The paths that calls register, earliest first. -/
def registeredBy (calls : List Call) : List Path :=
  calls.filterMap Call.registered?

/-- The session after a call, which may have failed. -/
def call {σ : Type} [Session σ] (session : σ) : Call → σ
  | .start => (Session.start session).session
  | .requestLines expression destination =>
      (Session.requestLines session expression destination).session
  | .requestObjects destination =>
      (Session.requestObjects session destination).session
  | .register path => Session.registerForDeletion session path

/-- The session after calls, earliest first. -/
def callAll {σ : Type} [Session σ] (session : σ) (calls : List Call) : σ :=
  calls.foldl call session

/-! ## Registered paths -/

/-- Paths, and those of them that are kept when each one is kept that is not the
same as an earlier one. -/
inductive Keeps : List Path → List Path → Prop
  | none : Keeps [] []
  | known
      {paths kept : List Path}
      (keeps : Keeps paths kept)
      {path first : Path}
      (present : first ∈ kept)
      (same : first.same path = true) :
      Keeps (paths ++ [path]) kept
  | new
      {paths kept : List Path}
      (keeps : Keeps paths kept)
      {path : Path}
      (differ : ∀ first ∈ kept, first.same path = false) :
      Keeps (paths ++ [path]) (kept ++ [path])

namespace Keeps

variable {paths kept : List Path}

theorem sublist (keeps : Keeps paths kept) : kept.Sublist paths := by
  induction keeps with
  | none => exact .slnil
  | known keeps present same inductionHypothesis =>
      exact inductionHypothesis.trans (List.sublist_append_left _ _)
  | new keeps differ inductionHypothesis =>
      exact inductionHypothesis.append (.refl _)

/-- No two of the kept paths are the same. -/
theorem pairwise (keeps : Keeps paths kept) :
    kept.Pairwise fun path other => path.same other = false := by
  induction keeps with
  | none => exact .nil
  | known keeps present same inductionHypothesis => exact inductionHypothesis
  | new keeps differ inductionHypothesis =>
      rw [List.pairwise_append]
      refine ⟨inductionHypothesis, List.pairwise_singleton _ _, ?_⟩
      intro first present last isLast
      rw [List.mem_singleton.mp isLast]
      exact differ first present

/-- Every path is the same as one that is kept. -/
theorem exists_same
    (keeps : Keeps paths kept)
    {path : Path}
    (present : path ∈ paths) :
    ∃ first ∈ kept, first.same path = true := by
  induction keeps with
  | none => cases present
  | @known paths kept keeps last first known same inductionHypothesis =>
      rcases List.mem_append.mp present with earlier | isLast
      · exact inductionHypothesis earlier
      · rw [List.mem_singleton.mp isLast]
        exact ⟨first, known, same⟩
  | new keeps differ inductionHypothesis =>
      rcases List.mem_append.mp present with earlier | isLast
      · obtain ⟨first, known, same⟩ := inductionHypothesis earlier
        exact ⟨first, List.mem_append_left _ known, same⟩
      · exact ⟨_, List.mem_append_right _ isLast, Path.same_self _⟩

/-- What is kept before a path is what is kept of the paths before it. -/
theorem split
    (keeps : Keeps paths kept)
    {path : Path}
    {keptBefore keptAfter : List Path}
    (parts : kept = keptBefore ++ path :: keptAfter) :
    ∃ before after,
      paths = before ++ path :: after ∧ Keeps before keptBefore := by
  induction keeps generalizing keptAfter with
  | none => simp at parts
  | @known paths kept keeps last first known same inductionHypothesis =>
      obtain ⟨before, after, rfl, earlier⟩ := inductionHypothesis parts
      exact ⟨before, after ++ [last], by simp, earlier⟩
  | @new paths kept keeps last differ inductionHypothesis =>
      rcases List.append_eq_append_iff.mp parts with
        ⟨others, rfl, rest⟩ | ⟨others, rfl, rest⟩
      · -- nothing is kept after the last path
        obtain ⟨rfl, rfl, rfl⟩ : others = [] ∧ last = path ∧ keptAfter = [] := by
          cases others with
          | nil => simpa using rest
          | cons other others => simp at rest
        exact ⟨paths, [], rfl, by simpa using keeps⟩
      · cases others with
        | nil =>
            obtain ⟨rfl, -⟩ := List.cons.inj rest
            exact ⟨paths, [], rfl, by simpa using keeps⟩
        | cons other others =>
            obtain ⟨rfl, -⟩ := List.cons.inj rest
            obtain ⟨before, after, rfl, earlier⟩ := inductionHypothesis rfl
            exact ⟨before, after ++ [last], by simp, earlier⟩

/-- A path that is kept is registered before all others that are the same. -/
theorem not_mem_of_append
    {before keptBefore keptAfter : List Path}
    {first path : Path}
    (earlier : Keeps before keptBefore)
    (keeps : Keeps paths (keptBefore ++ first :: keptAfter))
    (same : first.same path = true) :
    path ∉ before := by
  intro known
  obtain ⟨other, isKept, otherSame⟩ := earlier.exists_same known
  have twice : other.same first = true := by
    rw [Path.same_comm] at same
    exact Path.same_trans otherSame same
  have differ := (List.pairwise_append.mp keeps.pairwise).2.2 other isKept
    first List.mem_cons_self
  rw [differ] at twice
  cases twice

end Keeps

/-- What is before an element is not before the first occurrence of another. -/
theorem subset_of_append_cons_eq {α : Type}
    {before after others rest : List α}
    {element other : α}
    (parts : before ++ element :: after = others ++ other :: rest)
    (absent : element ∉ others) :
    others ⊆ before := by
  rcases List.append_eq_append_iff.mp parts with
    ⟨between, rfl, further⟩ | ⟨between, rfl, -⟩
  · cases between with
    | nil => simp
    | cons next between =>
        obtain ⟨rfl, -⟩ := List.cons.inj further
        exact absurd (List.mem_append_right _ List.mem_cons_self) absent
  · exact List.subset_append_left _ _

namespace Nvimcom

variable {τ : Type}

/-- A path is kept when it is registered, unless it is known. -/
theorem keeps_register
    {session : Nvimcom τ}
    {paths : List Path}
    (keeps : Keeps paths session.registered)
    (path : Path) :
    Keeps (paths ++ [path]) (session.register path).registered := by
  unfold register
  split
  case isTrue known =>
    obtain ⟨first, present, same⟩ := List.any_eq_true.mp known
    exact .known keeps present same
  case isFalse unknown =>
    refine .new keeps fun first present => ?_
    rw [← Bool.not_eq_true]
    exact fun same => unknown (List.any_eq_true.mpr ⟨first, present, same⟩)

/-- Only a registration changes which paths are kept. -/
theorem keeps_call [Transport τ]
    {session : Nvimcom τ}
    {paths : List Path}
    (keeps : Keeps paths session.registered)
    (next : Call) :
    Keeps (paths ++ next.registered?.toList)
      (Session.call session next).registered := by
  cases next with
  | register path => exact keeps_register keeps path
  | start => exact (List.append_nil paths).symm ▸ keeps
  | requestLines expression destination =>
      exact (List.append_nil paths).symm ▸ keeps
  | requestObjects destination =>
      exact (List.append_nil paths).symm ▸ keeps

/-- After any calls the session keeps each path that they registered once. -/
theorem keeps_callAll [Transport τ]
    (session : Nvimcom τ)
    {paths : List Path}
    (keeps : Keeps paths session.registered)
    (calls : List Call) :
    Keeps (paths ++ registeredBy calls)
      (callAll session calls).registered := by
  induction calls generalizing session paths with
  | nil => simpa [registeredBy, callAll] using keeps
  | cons next calls inductionHypothesis =>
      have parts :
          registeredBy (next :: calls) =
            next.registered?.toList ++ registeredBy calls := by
        cases registered : next.registered? with
        | none => simp [registeredBy, registered]
        | some path => simp [registeredBy, registered]
      rw [parts, ← List.append_assoc]
      exact inductionHypothesis _ (keeps_call keeps next)

/-! ## Removal -/

/-- Notices of what hinders the removal of files at paths, after earlier ones. -/
structure Warns
    (disk : Disk)
    (earlier paths : List Path)
    (warned : List (Path × Disk.Obstacle)) : Prop where
  sublist : (warned.map (·.1)).Sublist paths
  mem_iff : ∀ path obstacle, (path, obstacle) ∈ warned ↔
    ∃ before after, paths = before ++ path :: after ∧
      disk.Hinders (earlier ++ before) path obstacle

/-- What hinders a path is put before what hinders those after it. -/
theorem Warns.cons
    {disk : Disk}
    {earlier paths : List Path}
    {path : Path}
    {obstacle? : Option Disk.Obstacle}
    (hinders : ∀ obstacle, obstacle? = some obstacle ↔
      disk.Hinders earlier path obstacle)
    {warned : List (Path × Disk.Obstacle)}
    (warns : Warns disk (earlier ++ [path]) paths warned) :
    Warns disk earlier (path :: paths)
      (obstacle?.toList.map (path, ·) ++ warned) := by
  constructor
  case sublist =>
    rw [List.map_append]
    cases obstacle? with
    | none => exact warns.sublist.cons path
    | some obstacle => exact warns.sublist.cons_cons path
  case mem_iff =>
    intro other obstacle
    rw [List.mem_append, warns.mem_iff]
    constructor
    · rintro (here | ⟨before, after, rfl, hindered⟩)
      · obtain ⟨_, present, same⟩ := List.mem_map.mp here
        obtain ⟨rfl, rfl⟩ := Prod.mk.inj same
        rw [Option.mem_toList, hinders] at present
        exact ⟨[], paths, rfl, by rwa [List.append_nil]⟩
      · exact ⟨path :: before, after, rfl, by rwa [List.append_cons]⟩
    · rintro ⟨before, after, parts, hindered⟩
      cases before with
      | nil =>
          obtain ⟨rfl, -⟩ := List.cons.inj parts
          rw [List.append_nil, ← hinders] at hindered
          exact .inl (by simp [hindered])
      | cons _ before =>
          obtain ⟨rfl, rfl⟩ := List.cons.inj parts
          rw [List.append_cons] at hindered
          exact .inr ⟨before, after, rfl, hindered⟩

/-- A file is removed, or notice is given of what hinders that. -/
theorem removeTemporary_withoutFiles
    (disk : Disk)
    (earlier : List Path)
    {path : Path}
    (plain : path.IsPlain) :
    ∃ obstacle? : Option Disk.Obstacle,
      removeTemporary (disk.withoutFiles earlier) path =
        ⟨disk.withoutFiles (earlier ++ [path]),
          obstacle?.toList.map (Notice.fileNotRemoved path)⟩ ∧
      ∀ obstacle, obstacle? = some obstacle ↔
        disk.Hinders earlier path obstacle := by
  unfold removeTemporary
  rcases disk.unlink_withoutFiles earlier plain with
    ⟨removed, free⟩ | ⟨obstacle, failed, same, only⟩
  · rw [removed]
    exact ⟨none, rfl, fun obstacle => by simp [free]⟩
  · rw [failed, same]
    cases obstacle with
    | missing => exact ⟨none, rfl, by simp [only]⟩
    | isDirectory => exact ⟨some .isDirectory, rfl, by simp [only, eq_comm]⟩
    | notDirectory => exact ⟨some .notDirectory, rfl, by simp [only, eq_comm]⟩

/-- Files are removed one after the other, with one notice of each hindrance. -/
theorem removeTemporaries_withoutFiles
    (disk : Disk)
    (earlier : List Path)
    {paths : List Path}
    (plain : ∀ path ∈ paths, path.IsPlain) :
    ∃ warned,
      removeTemporaries (disk.withoutFiles earlier) paths =
        ⟨disk.withoutFiles (earlier ++ paths),
          warned.map fun warning => .fileNotRemoved warning.1 warning.2⟩ ∧
      Warns disk earlier paths warned := by
  induction paths generalizing earlier with
  | nil =>
      refine ⟨[], ?_, .slnil, by simp⟩
      rw [removeTemporaries, List.append_nil]
      rfl
  | cons path paths inductionHypothesis =>
      obtain ⟨first, rest⟩ := List.forall_mem_cons.mp plain
      obtain ⟨obstacle?, removed, hinders⟩ :=
        removeTemporary_withoutFiles disk earlier first
      obtain ⟨warned, later, warns⟩ :=
        inductionHypothesis (earlier ++ [path]) rest
      refine ⟨obstacle?.toList.map (path, ·) ++ warned, ?_, warns.cons hinders⟩
      rw [removeTemporaries, removed, List.map_append, List.map_map,
        List.append_cons earlier path paths]
      change Logged.bind _ _ = _
      simp only [Logged.bind, later]
      rfl

/-! ## Closing -/

section Kept

variable
  {disk : Disk}
  {registered kept : List Path}
  (keeps : Keeps registered kept)
  (plain : ∀ path ∈ registered, path.IsPlain)

include keeps plain

/-- The kept paths lead wherever the registered ones do. -/
theorem map_ofPath_subset :
    registered.map Location.ofPath ⊆ kept.map Location.ofPath := by
  intro location present
  obtain ⟨path, known, rfl⟩ := List.mem_map.mp present
  obtain ⟨first, isKept, same⟩ := keeps.exists_same known
  refine List.mem_map.mpr ⟨first, isKept, ?_⟩
  exact (Location.ofPath_eq_iff_same
    (plain first (keeps.sublist.mem isKept)) (plain path known)).mpr same

/-- What hinders a path counts the first time that the path is registered. -/
theorem exists_hinders_iff (path : Path) (obstacle : Disk.Obstacle) :
    (∃ before first after, kept = before ++ first :: after ∧
        first.same path = true ∧ disk.Hinders before first obstacle) ↔
      ∃ before again after, registered = before ++ again :: after ∧
        again.same path = true ∧ disk.Hinders before again obstacle := by
  constructor
  · rintro ⟨keptBefore, first, keptAfter, parts, same, hinders⟩
    obtain ⟨before, after, rfl, earlier⟩ := keeps.split parts
    have earlierPlain : ∀ path ∈ before, path.IsPlain :=
      fun path known => plain path (List.mem_append_left _ known)
    exact ⟨before, first, after, rfl, same,
      hinders.of_same (map_ofPath_subset earlier earlierPlain) rfl⟩
  · rintro ⟨before, again, after, rfl, same, hinders⟩
    have isRegistered : again ∈ before ++ again :: after :=
      List.mem_append_right _ List.mem_cons_self
    obtain ⟨first, isKept, sameFirst⟩ := keeps.exists_same isRegistered
    obtain ⟨keptBefore, keptAfter, rfl⟩ := List.append_of_mem isKept
    obtain ⟨earlierPaths, _, parts, earlier⟩ := keeps.split rfl
    have absent := earlier.not_mem_of_append keeps sameFirst
    have fewer : keptBefore ⊆ before :=
      fun path isEarlier => subset_of_append_cons_eq parts absent
        (earlier.sublist.mem isEarlier)
    have here : Location.ofPath again = Location.ofPath first :=
      ((Location.ofPath_eq_iff_same
        (plain first (keeps.sublist.mem isKept))
        (plain again isRegistered)).mpr sameFirst).symm
    exact ⟨keptBefore, first, keptAfter, rfl, Path.same_trans sameFirst same,
      hinders.of_same (List.map_subset _ fewer) here⟩

end Kept

/--
A session to which paths are registered that consist of names is closed, after
any other requests, which may have failed.  The files at these paths are then
gone and everything else is on the disk as before: every directory, and every
file that none of the paths leads to, the object listing among them.  One
warning is given of each path, however often it was registered, that leads to a
directory or through a file to which no path had been registered before, and of
no other one.
-/
theorem close_callAll_of_isPlain [Transport τ]
    (id : String)
    (transport : τ)
    (objectListing : Path)
    {calls : List Call}
    (plain : ∀ path ∈ registeredBy calls, path.IsPlain)
    (disk : Disk) :
    let session : Nvimcom τ := { id, transport, objectListing }
    let registered := registeredBy calls
    let closed := (callAll session calls).close disk
    closed.value = disk.withoutFiles registered ∧
    (∀ location, disk.node? location = some .directory →
      closed.value.node? location = some .directory) ∧
    (∀ other, Location.ofPath other ∉ registered.map Location.ofPath →
      closed.value.readBytes? other = disk.readBytes? other) ∧
    ∃ warned : List (Path × Disk.Obstacle),
      closed.notices =
        warned.map (fun warning => .fileNotRemoved warning.1 warning.2) ∧
      (warned.map (·.1)).Sublist registered ∧
      (warned.map (·.1)).Pairwise (fun path other =>
        path.same other = false) ∧
      ∀ path obstacle,
        (∃ first, first.same path = true ∧ (first, obstacle) ∈ warned) ↔
          ∃ before again after, registered = before ++ again :: after ∧
            again.same path = true ∧ disk.Hinders before again obstacle := by
  intro session registered closed
  have keeps : Keeps registered (callAll session calls).registered :=
    keeps_callAll session .none calls
  have keptPlain : ∀ path ∈ (callAll session calls).registered,
      path.IsPlain := fun path isKept => plain path (keeps.sublist.mem isKept)
  obtain ⟨warned, removed, warns⟩ :=
    removeTemporaries_withoutFiles disk [] keptPlain
  rw [Disk.withoutFiles_nil, List.nil_append] at removed
  have value : closed.value = disk.withoutFiles registered := by
    rw [show closed = _ from removed]
    refine Disk.withoutFiles_congr fun location => ?_
    rw [Disk.mem_filesOf_iff, Disk.mem_filesOf_iff]
    exact and_congr_right fun _ =>
      ⟨fun isKept => (keeps.sublist.map _).mem isKept,
        fun known => map_ofPath_subset keeps plain known⟩
  refine ⟨value, ?directories, ?others, warned, ?notices, ?sublist, ?pairwise,
    ?hinders⟩
  case directories =>
    intro location directory
    rwa [value, Disk.node?_withoutFiles_eq_directory_iff]
  case others =>
    intro other elsewhere
    rw [value, Disk.readBytes?_withoutFiles elsewhere]
  case notices => exact congrArg Logged.notices removed
  case sublist => exact warns.sublist.trans keeps.sublist
  case pairwise => exact keeps.pairwise.sublist warns.sublist
  case hinders =>
    intro path obstacle
    rw [← exists_hinders_iff keeps plain]
    simp only [warns.mem_iff, List.nil_append]
    constructor
    · rintro ⟨first, same, before, after, parts, hinders⟩
      exact ⟨before, first, after, parts, same, hinders⟩
    · rintro ⟨before, first, after, parts, same, hinders⟩
      exact ⟨first, same, before, after, parts, hinders⟩

/-- A transport that delivers what it is given while it is connected. -/
structure Line where
  /-- Whether it is connected. -/
  connected : Bool

/-- What becomes of anything that is given to a line. -/
def Line.deliver (line : Line) : Delivery Line where
  transport := line
  outcome := if line.connected then .ok () else .error (.refused "no line")

instance : Transport Line where
  isRunning := Line.connected
  start := Line.deliver
  send line _ := line.deliver
  listObjects := Line.deliver

/--
All requests fail.  A path leads through a file before that file is registered,
another one after it; a directory is registered twice, and a file in two ways.
-/
theorem close_callAll_mixed :
    let session : Nvimcom Line := ⟨"1", ⟨false⟩, ⟨"objects"⟩, []⟩
    let disk := ((Disk.empty.insertFile ⟨"d/x"⟩ "x".toUTF8).insertFile
      ⟨"f"⟩ "f".toUTF8).insertFile ⟨"objects"⟩ "o".toUTF8
    let calls : List Call := [
      .register ⟨"d/x/w"⟩, .start, .register ⟨"d"⟩, .register ⟨"f"⟩,
      .requestObjects ⟨"f"⟩, .register ⟨"f/y"⟩, .register ⟨"d//x"⟩,
      .requestLines "ls()" ⟨"f"⟩, .register ⟨"d/./x"⟩, .register ⟨"d"⟩,
      .register ⟨"none"⟩]
    let closed := (callAll session calls).close disk
    (∀ path ∈ registeredBy calls, path.IsPlain) ∧
      closed.value = disk.withoutFiles (registeredBy calls) ∧
      closed.value.entries.map (·.1) =
        [Location.ofPath ⟨"d"⟩, Location.ofPath ⟨"objects"⟩] ∧
      closed.value.readBytes? session.objectListing =
        disk.readBytes? session.objectListing ∧
      closed.notices = [
        .fileNotRemoved ⟨"d/x/w"⟩ .notDirectory,
        .fileNotRemoved ⟨"d"⟩ .isDirectory] ∧
      ∃ warned : List (Path × Disk.Obstacle),
        closed.notices =
          warned.map (fun warning => .fileNotRemoved warning.1 warning.2) ∧
        ∀ path obstacle,
          (∃ first, first.same path = true ∧ (first, obstacle) ∈ warned) ↔
            ∃ before again after,
              registeredBy calls = before ++ again :: after ∧
              again.same path = true ∧
              disk.Hinders before again obstacle := by
  intro session disk calls closed
  have plain : ∀ path ∈ registeredBy calls, path.IsPlain := by decide
  obtain ⟨value, -, others, warned, notices, -, -, hinders⟩ :=
    close_callAll_of_isPlain session.id session.transport
      session.objectListing plain disk
  exact ⟨plain, value, by decide +kernel, others _ (by decide +kernel),
    by decide +kernel, warned, notices, hinders⟩

/-- A path that leads through a file gives no warning if that file was
registered before, and is gone. -/
theorem not_forall_warned_of_leads_through :
    ¬ ∀ (calls : List Call) (disk : Disk),
      (∀ path ∈ registeredBy calls, path.IsPlain) →
      ∀ path ∈ registeredBy calls,
        disk.HasDirectory (Location.ofPath path) ∨
          (∃ location ∈ (Location.ofPath path).above,
            disk.HasFile location) →
        ∃ first obstacle, first.same path = true ∧
          Notice.fileNotRemoved first obstacle ∈
            ((callAll (⟨"1", ⟨true⟩, ⟨"objects"⟩, []⟩ : Nvimcom Line)
              calls).close disk).notices := by
  intro warns
  let calls : List Call := [.register ⟨"f"⟩, .register ⟨"f/x"⟩]
  let disk := Disk.empty.insertFile ⟨"f"⟩ "".toUTF8
  obtain ⟨first, obstacle, -, warned⟩ :=
    warns calls disk (by decide) ⟨"f/x"⟩ (by decide) (by decide +kernel)
  have silent :
      ((callAll (⟨"1", ⟨true⟩, ⟨"objects"⟩, []⟩ : Nvimcom Line)
        calls).close disk).notices = [] := by decide +kernel
  rw [silent] at warned
  cases warned

end Nvimcom
end Session
end RCompletion
