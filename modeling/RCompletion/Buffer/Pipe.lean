import RCompletion.Buffer.Typed
import RCompletion.Text.Blank
import RCompletion.Text.Split

/-!
# Pipe chains

A pipe operator hands a value on to the next call.  The search for the value at
the root of a chain walks up from the cursor: rows that continue the chain
without naming its root are skipped, and rows without an operator end the
search when they start a statement or when there are too many of them.
-/

namespace RCompletion
namespace Buffer

/-! ## Operators -/

/--
Operators that chain calls.  Some operator is given, and not only the empty
one.
-/
structure PipeOperators where
  /-- The operators, as they are written. -/
  symbols : List String
  /-- There is something to look for. -/
  proper : symbols ≠ [] ∧ symbols ≠ [""]

/-- The operators of a list, if it is proper. -/
def PipeOperators.ofList? (symbols : List String) : Option PipeOperators :=
  if proper : symbols ≠ [] ∧ symbols ≠ [""] then
    some ⟨symbols, proper⟩
  else
    none

/-- Whether a text contains an operator. -/
def PipeOperators.occurIn (operators : PipeOperators) (text : String) : Bool :=
  operators.symbols.any (Text.contains text)

/-- Whether a list of characters starts with an operator. -/
def PipeOperators.start (operators : PipeOperators) (characters : List Char) : Bool :=
  operators.symbols.any fun symbol => symbol.toList.isPrefixOf characters

/-- Whether an operator follows, after at most one blank. -/
def PipeOperators.follow (operators : PipeOperators) (characters : List Char) : Bool :=
  operators.start characters ||
    match characters with
    | character :: rest => Text.isBlank character && operators.start rest
    | [] => false

@[simp]
theorem PipeOperators.follow_nil (operators : PipeOperators) :
    operators.follow [] = operators.start [] := by
  simp [follow]

theorem PipeOperators.follow_cons
    (operators : PipeOperators)
    (character : Char)
    (rest : List Char) :
    operators.follow (character :: rest) =
      (operators.start (character :: rest) ||
        Text.isBlank character && operators.start rest) := rfl

/-! ## Roots -/

/--
The longest name at the start of a list, of at most the given length, that an
operator follows.
-/
def PipeOperators.rootWithin?
    (operators : PipeOperators)
    (characters : List Char) :
    Nat → Option (List Char)
  | 0 => none
  | length + 1 =>
      if operators.follow (characters.drop (length + 1)) then
        some (characters.take (length + 1))
      else
        operators.rootWithin? characters length

/-- The longest name at the start of a list that an operator follows. -/
def PipeOperators.rootAtStart?
    (operators : PipeOperators)
    (characters : List Char) : Option (List Char) :=
  operators.rootWithin? characters (characters.takeWhile isNamePart).length

/-- The leftmost name in a list that an operator follows. -/
def PipeOperators.rootList?
    (operators : PipeOperators) :
    List Char → Option (List Char)
  | [] => none
  | character :: rest =>
      match operators.rootAtStart? (character :: rest) with
      | some root => some root
      | none => operators.rootList? rest

/-- The value that flows into the first operator of a row that names one. -/
def PipeOperators.root? (operators : PipeOperators) (row : String) :
    Option String :=
  (operators.rootList? row.toList).map String.ofList

/-! ## Assignments -/

/-- Whether an assignment sign stands somewhere in a list. -/
def hasAssignmentSign (characters : List Char) : Bool :=
  Text.occursIn ['<', '-'] characters || Text.occursIn ['='] characters

/--
Whether a row looks like the start of a statement: an assignment sign follows
at least one character, and no parenthesis opens before it.
-/
def isAssignment (row : String) : Bool :=
  hasAssignmentSign ((row.toList.takeWhile (· != '(')).drop 1)

/-! ## The search -/

/-- The state of the search for the root of a chain. -/
inductive PipeScan where
  /-- The search goes on after so many rows without an operator. -/
  | scanning (rowsWithoutPipe : Nat)
  /-- The root of the chain. -/
  | found (source : String)
  /-- A row that starts a statement. -/
  | hitAssignment
  /-- Too many rows without an operator, or no rows left. -/
  | exhausted
deriving Repr, DecidableEq

namespace PipeScan

/-- The number of rows without an operator that ends the search. -/
def rowLimit : Nat := 2

/-- The state before the first row. -/
def start : PipeScan := scanning 0

/-- Whether the search goes on. -/
def isScanning : PipeScan → Bool
  | scanning _ => true
  | _ => false

/-- The root of the chain, if it was found. -/
def source? : PipeScan → Option String
  | found source => some source
  | _ => none

/-- The state after one more row. -/
def step (operators : PipeOperators) (state : PipeScan) (row : String) : PipeScan :=
  match state with
  | scanning count =>
      if operators.occurIn row then
        match operators.root? row with
        | some source => found source
        | none => scanning count
      else if isAssignment row then
        hitAssignment
      else if rowLimit ≤ count + 1 then
        exhausted
      else
        scanning (count + 1)
  | finished => finished

/-- The state after the given rows, where a search without an end is exhausted. -/
def run (operators : PipeOperators) (state : PipeScan) : List String → PipeScan
  | [] => if state.isScanning then exhausted else state
  | row :: rows =>
      if state.isScanning then
        run operators (step operators state row) rows
      else
        state

/-- The states after each of the given rows. -/
def trace (operators : PipeOperators) (state : PipeScan) :
    List String → List PipeScan
  | [] => []
  | row :: rows =>
      let next := step operators state row
      next :: trace operators next rows

/-- A finished search stays as it is. -/
theorem run_of_finished
    (operators : PipeOperators)
    {state : PipeScan}
    (finished : state.isScanning = false)
    (rows : List String) :
    run operators state rows = state := by
  cases rows <;> simp [run, finished]

end PipeScan

/-- The row of the cursor, cut at its column, and the rows above, going up. -/
def rowsUpward (rows : List String) (cursor : Cursor) : List String :=
  let above := (rows.take cursor.line).reverse
  match rows[cursor.line]? with
  | some row => beforeColumn row cursor.column :: above
  | none => above

/-- The search for the root of the chain that the cursor is in. -/
def scanPipe
    (operators : PipeOperators)
    (rows : List String)
    (cursor : Cursor) : PipeScan :=
  PipeScan.run operators PipeScan.start (rowsUpward rows cursor)

end Buffer
end RCompletion
