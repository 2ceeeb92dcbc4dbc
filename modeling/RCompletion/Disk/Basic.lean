import RCompletion.Disk.Path
import RCompletion.Text.Utf8

/-!
# Disks

A disk holds files and directories at locations, which are lists of names below
the working directory or below the root.  The names and the contents of files
are bytes.  Walking along a path leads to a location, unless something on the
way is missing or is a file.

Nothing else gets in the way: names and paths may be of any length and hold any
byte, nobody lacks the permission to read or to remove something, and there are
no links, devices or other nodes besides files and directories.
-/

namespace RCompletion

/-- The name of a file, in bytes. -/
abbrev FileName := ByteArray

instance : DecidableEq FileName := ByteArray.instDecidableEq

/-- A place on a disk. -/
structure Location where
  /-- Whether the names lead from the root, not from the working directory. -/
  absolute : Bool
  /-- The names on the way. -/
  names : List FileName
deriving DecidableEq

/-- What a disk holds at a location. -/
inductive Node where
  /-- A directory. -/
  | directory
  /-- A file with its contents. -/
  | file (contents : ByteArray)
deriving DecidableEq

/-- Files and directories at their locations. -/
structure Disk where
  /-- The locations in use, with what they hold. -/
  entries : List (Location × Node)

namespace Location

/-- The location where a path starts. -/
def origin (absolute : Bool) : Location :=
  ⟨absolute, []⟩

/-- The location of a name in a directory. -/
def child (location : Location) (name : FileName) : Location :=
  { location with names := location.names ++ [name] }

/-- The location that a name leads to, where two dots lead upward. -/
def follow (location : Location) (piece : FileName) : Location :=
  let upward := "..".toUTF8
  if piece = "".toUTF8 ∨ piece = ".".toUTF8 then
    location
  else if piece = upward then
    match location.names.getLast? with
    | none => if location.absolute then location else location.child upward
    | some last =>
        if last = upward then
          location.child upward
        else
          { location with names := location.names.dropLast }
  else
    location.child piece

/-- The location that pieces of a path lead to, whatever a disk holds. -/
def ofPieces (absolute : Bool) (pieces : List FileName) : Location :=
  pieces.foldl follow (origin absolute)

/-- The location that a path leads to, whatever a disk holds. -/
def ofPath (path : Path) : Location :=
  ofPieces path.isAbsolute (path.pieces.map String.toUTF8)

/-- The locations that a path passes on the way to its last piece. -/
def stops (path : Path) : List Location :=
  (List.range path.pieces.length).map fun count =>
    ofPieces path.isAbsolute ((path.pieces.take count).map String.toUTF8)

/-- Whether a location is another one or lies below it. -/
def isWithin (location enclosing : Location) : Bool :=
  location.absolute == enclosing.absolute &&
    enclosing.names.isPrefixOf location.names

/-- The directories above a location, from the origin down. -/
def above (location : Location) : List Location :=
  (List.range location.names.length).map fun count =>
    { location with names := location.names.take count }

end Location

namespace Disk

/-- The disk without any files. -/
def empty : Disk := ⟨[]⟩

/-- What a disk holds at a location; the origins are directories. -/
def node? (disk : Disk) (location : Location) : Option Node :=
  if location.names.isEmpty then
    some .directory
  else
    (disk.entries.find? (·.1 = location)).map (·.2)

/-! ## Walking -/

/-- What stands in the way of reading or removing a file. -/
inductive Obstacle where
  /-- Nothing is there. -/
  | missing
  /-- A directory is there. -/
  | isDirectory
  /-- The way leads through a file. -/
  | notDirectory
deriving Repr, DecidableEq

/-- Go on from a location to a piece of a path. -/
def walkStep (disk : Disk) (location : Location) (piece : FileName) :
    Except Obstacle Location :=
  match disk.node? location with
  | none => .error .missing
  | some (.file _) => .error .notDirectory
  | some .directory => .ok (location.follow piece)

/-- The location that a path leads to on a disk. -/
def walk (disk : Disk) (path : Path) : Except Obstacle Location :=
  if path.isEmpty then
    .error .missing
  else
    (path.pieces.map String.toUTF8).foldlM disk.walkStep
      (Location.origin path.isAbsolute)

/-- The location of the file that a path names. -/
def fileLocation (disk : Disk) (path : Path) : Except Obstacle Location := do
  let location ← disk.walk path
  match disk.node? location with
  | none => throw .missing
  | some .directory => throw .isDirectory
  | some (.file _) => return location

/-! ## Reading -/

/-- The bytes of the file that a path names. -/
def readBytes? (disk : Disk) (path : Path) : Option ByteArray :=
  match disk.fileLocation path with
  | .error _ => none
  | .ok location =>
      match disk.node? location with
      | some (.file contents) => some contents
      | _ => none

/-- The text of the file that a path names, if it is UTF-8. -/
def readText? (disk : Disk) (path : Path) : Option String :=
  (disk.readBytes? path).bind String.fromUTF8?

/-- The names in a directory, with what they stand for. -/
def children (disk : Disk) (location : Location) : List (FileName × Node) :=
  disk.entries.filterMap fun (place, node) =>
    match place.names.getLast? with
    | some name => if place = location.child name then some (name, node) else none
    | none => none

/-- What a path names: the contents of a directory, or nothing for a file. -/
def list? (disk : Disk) (path : Path) : Option (List (FileName × Node)) :=
  match disk.walk path with
  | .error _ => none
  | .ok location =>
      match disk.node? location with
      | none => none
      | some (.file _) => some []
      | some .directory => some (disk.children location)

/-! ## Writing -/

/-- A disk that holds nothing at a location. -/
def erase (disk : Disk) (location : Location) : Disk :=
  ⟨disk.entries.filter (·.1 ≠ location)⟩

/-- A disk that holds something at a location. -/
def put (disk : Disk) (location : Location) (node : Node) : Disk :=
  if location.names.isEmpty then
    disk
  else
    ⟨(disk.erase location).entries ++ [(location, node)]⟩

/-- A disk with a directory at a location, unless something is there. -/
def makeDirectory (disk : Disk) (location : Location) : Disk :=
  match disk.node? location with
  | none => disk.put location .directory
  | some _ => disk

/-- A disk with something at a location and directories above it. -/
def insert (disk : Disk) (location : Location) (node : Node) : Disk :=
  (location.above.foldl makeDirectory disk).put location node

/-- A disk with a directory at a location and directories above it. -/
def insertDirectory (disk : Disk) (location : Location) : Disk :=
  (location.above.foldl makeDirectory disk).makeDirectory location

/-- A disk on which a path leads to a file with the given contents. -/
def insertFile (disk : Disk) (path : Path) (contents : ByteArray) : Disk :=
  ((Location.stops path).foldl insertDirectory disk).insert
    (Location.ofPath path) (.file contents)

/-- A disk on which a path leads to a directory. -/
def insertDirectoryAt (disk : Disk) (path : Path) : Disk :=
  ((Location.stops path).foldl insertDirectory disk).insertDirectory
    (Location.ofPath path)

/-- A disk without a location and everything below it. -/
def prune (disk : Disk) (location : Location) : Disk :=
  ⟨disk.entries.filter fun entry => !entry.1.isWithin location⟩

/-- A disk without the file that a path names. -/
def unlink (disk : Disk) (path : Path) : Except Obstacle Disk :=
  (disk.fileLocation path).map disk.erase

/-! ## Order -/

/-- Whether bytes come before other bytes, or are the same. -/
def bytesLE (left right : ByteArray) : Bool :=
  !decide (right.data.toList < left.data.toList)

/-- The text of a location, with a slash after the name of a directory. -/
def shownBytes (location : Location) (node : Node) : ByteArray :=
  let slash := "/".toUTF8
  let joined := (location.names.map (·.data.toList)).intersperse slash.data.toList
  let start := if location.absolute then slash.data.toList else []
  let stop :=
    match node with
    | .directory => slash.data.toList
    | .file _ => []
  ⟨(start ++ joined.flatten ++ stop).toArray⟩

/-- The paths of all files and directories, in the order of their bytes. -/
def paths (disk : Disk) : List String :=
  let shown := disk.entries.map fun (location, node) => shownBytes location node
  (shown.mergeSort bytesLE).map Text.decodeLossy

@[simp]
theorem node?_origin (disk : Disk) (absolute : Bool) :
    disk.node? (Location.origin absolute) = some .directory := by
  simp [node?, Location.origin]

end Disk
end RCompletion
