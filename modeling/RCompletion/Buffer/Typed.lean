import RCompletion.Unicode.Word

/-!
# Typed text

A buffer is a list of rows and a cursor stands before a character of a row.
The text of that row before the cursor is what was typed; it ends with the word
that is being completed, which may reach into an object with `$`.
-/

namespace RCompletion
namespace Buffer

/-- A place in a buffer. -/
structure Cursor where
  /-- The number of rows above. -/
  line : Nat
  /-- The number of characters before the cursor on its row. -/
  column : Nat
deriving Repr, DecidableEq

/-- The part of a row before a column. -/
def beforeColumn (row : String) (column : Nat) : String :=
  String.ofList (row.toList.take column)

/-- The text before the cursor on its row, empty if the buffer has no such row. -/
def typed (rows : List String) (cursor : Cursor) : String :=
  beforeColumn (rows[cursor.line]?.getD "") cursor.column

/-- The longest end of a list whose elements all pass a test. -/
def suffixWhile (test : α → Bool) (elements : List α) : List α :=
  (elements.reverse.takeWhile test).reverse

/-- Whether a character can be part of a name, with its `$` accessors. -/
def isNamePart (character : Char) : Bool :=
  Unicode.isWord character || character == '$' || character == '.'

/-- The word before the cursor. -/
def typedWord (typed : String) : String :=
  String.ofList (suffixWhile isNamePart typed.toList)

/-- Whether the text before the word ends with a quotation mark. -/
def isQuoted (typed : String) : Bool :=
  match typed.toList.reverse.dropWhile isNamePart with
  | character :: _ => character == '"' || character == '\''
  | [] => false

/-- The text before a cursor has at most as many characters as its column. -/
theorem length_typed_le (rows : List String) (cursor : Cursor) :
    (typed rows cursor).length ≤ cursor.column := by
  simp only [typed, beforeColumn, String.length_ofList, List.length_take]
  omega

/-- A list is what comes before its longest end that passes, and that end. -/
theorem dropWhile_reverse_append_suffixWhile
    (test : α → Bool)
    (elements : List α) :
    (elements.reverse.dropWhile test).reverse ++ suffixWhile test elements =
      elements := by
  rw [suffixWhile, ← List.reverse_append, List.takeWhile_append_dropWhile,
    List.reverse_reverse]

/-! ## The enclosing call -/

/-- Whether a character is a parenthesis. -/
def isParenthesis (character : Char) : Bool :=
  character == '(' || character == ')'

/-- Whether a character can be part of the name of a called function. -/
def isCalleePart (character : Char) : Bool :=
  Unicode.isWord character || character == '.' || character == ':' ||
    character == '$' || character == '@'

/--
The innermost call that is still open, provided that no parenthesis follows the
one that opens it.
-/
def enclosingCall? (typed : String) : Option String :=
  match typed.toList.reverse.dropWhile (!isParenthesis ·) with
  | '(' :: before =>
      let name := (before.takeWhile isCalleePart).reverse
      if name.isEmpty then none else some (String.ofList name)
  | _ => none

end Buffer
end RCompletion
