import RCompletion.Text.Split

/-!
# Paths

A path is shown as it was written.  Two paths are the same when they have the
same parts: repeated slashes, a slash at the end and dots that are not at the
start make no difference.
-/

namespace RCompletion

/-- A path, as it is written. -/
structure Path where
  /-- The text of the path. -/
  text : String
deriving Repr, DecidableEq, Inhabited

namespace Path

/-- A part of a path. -/
inductive Part where
  /-- The slash at the start of an absolute path. -/
  | root
  /-- A dot at the start of a path. -/
  | here
  /-- Two dots. -/
  | up
  /-- A name. -/
  | name (text : String)
deriving Repr, DecidableEq

/-- The pieces between the slashes of a path. -/
def pieces (path : Path) : List String :=
  Text.fields '/' path.text

/-- The part that a piece after the first one stands for, if it counts. -/
def partOfPiece? (piece : String) : Option Part :=
  if piece = "" ∨ piece = "." then none
  else if piece = ".." then some .up
  else some (.name piece)

/-- Whether a path starts with a slash. -/
def isAbsolute (path : Path) : Bool :=
  path.text.toList.head? == some '/'

/-- The parts that two paths have to share to be the same. -/
def parts (path : Path) : List Part :=
  let first : List Part :=
    if path.isAbsolute then [.root]
    else if path.pieces.head? = some "." then [.here]
    else []
  first ++ path.pieces.filterMap partOfPiece?

/-- Whether two paths are the same. -/
def same (left right : Path) : Bool :=
  left.parts == right.parts

/-- Whether a path is empty. -/
def isEmpty (path : Path) : Bool :=
  path.text == ""

/-- A name put after a path, with a slash between them where one is needed. -/
def join (path : Path) (name : String) : Path :=
  if path.isEmpty || path.text.toList.getLast? == some '/' then
    ⟨path.text ++ name⟩
  else
    ⟨path.text ++ "/" ++ name⟩

/-- A path is the same as itself. -/
@[simp]
theorem same_self (path : Path) : same path path = true := by
  simp [same]

/-- Sameness of paths can be read in both directions. -/
theorem same_comm (left right : Path) : same left right = same right left := by
  rw [Bool.eq_iff_iff]
  simp only [same, beq_iff_eq]
  exact eq_comm

end Path
end RCompletion
