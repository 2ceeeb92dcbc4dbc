import RCompletion.Pattern.Bracket
import RCompletion.Pattern.Size

/-!
# Reading patterns

The reader walks over the text of a pattern once and keeps the groups that are
still open on a stack.  Main definitions: `Pattern.parse` reads a pattern, and
`Pattern.parseAtEnd` one that has to match at the end of a text.
-/

namespace RCompletion
namespace Pattern

/-! ## Open groups -/

/-- A group that is still open, or the whole pattern. -/
structure OpenGroup where
  /-- The mode to return to after the group. -/
  outerMode : Mode
  /-- The finished choices, last one first. -/
  choices : List Pattern := []
  /-- The items of the current choice, last one first; flags leave none. -/
  items : List (Option Pattern) := []

/-- Add an item to the current choice. -/
def OpenGroup.push (group : OpenGroup) (item : Option Pattern) : OpenGroup :=
  { group with items := item :: group.items }

/-- The pattern of the current choice. -/
def OpenGroup.current (group : OpenGroup) : Pattern :=
  sequences (group.items.reverse.filterMap id)

/-- Begin another choice. -/
def OpenGroup.alternate (group : OpenGroup) : OpenGroup :=
  { group with choices := group.current :: group.choices, items := [] }

/-- The pattern of a closed group. -/
def OpenGroup.close (group : OpenGroup) : Pattern :=
  Pattern.choices (group.current :: group.choices).reverse

/-- Repeat the last item of the current choice. -/
def OpenGroup.repeatLast
    (group : OpenGroup)
    (least : Nat)
    (most : Option Nat)
    (greedy : Bool) : Except SyntaxError OpenGroup :=
  match group.items with
  | some body :: items =>
      .ok { group with items := some (body.repeated least most greedy) :: items }
  | _ => .error .nothingToRepeat

/-! ## Counts -/

/-- A bound that repetition counts stay below. -/
def countBound : Nat :=
  Nat.pow 2 32

/-- Read a decimal count with the blanks around it. -/
def readCount (characters : List Char) : Reading Nat :=
  let characters := Text.dropBlanks characters
  let digits := characters.takeWhile Char.isDigit
  let value := digits.foldl
    (fun value digit => value * 10 + (digit.toNat - '0'.toNat)) 0
  if digits.isEmpty || countBound ≤ value then
    .error .invalidCount
  else
    .ok (value, Text.dropBlanks (characters.drop digits.length))

/-- Read the bounds of a counted repetition, which follow its opening brace. -/
def readBounds (mode : Mode) (characters : List Char) :
    Except SyntaxError ((Nat × Option Nat) × List Char) := do
  let (least, rest) ← readCount characters
  match rest with
  | '\x7D' :: rest => return ((least, some least), rest)
  | ',' :: rest =>
      match mode.skip rest with
      | '\x7D' :: rest => return ((least, none), rest)
      | rest => do
          let (most, rest) ← readCount rest
          match rest with
          | '\x7D' :: rest =>
              if least ≤ most then
                return ((least, some most), rest)
              else
                throw .invalidCount
          | _ => throw .unclosedCount
  | _ => throw .unclosedCount

/-! ## The state of the reader -/

/-- The state of the reader between two items. -/
structure State where
  /-- How the next item is read. -/
  mode : Mode
  /-- The innermost open group. -/
  group : OpenGroup
  /-- The groups around it, innermost first. -/
  outer : List OpenGroup
  /-- The names of the groups so far. -/
  names : List (List Char)

/-- The state at the start of a pattern. -/
def State.start : State :=
  ⟨{}, { outerMode := {} }, [], []⟩

/-- What reading one item gives. -/
abbrev Turn :=
  Except SyntaxError (State × List Char)

/-- Add an item. -/
def State.push (state : State) (item : Option Pattern) : State :=
  { state with group := state.group.push item }

/-- Add the pattern of an atom. -/
def State.pushAtom (state : State) (atom : Atom) : State :=
  let item :=
    match atom with
    | .character value =>
        set ((CharSet.single value).ignoringCase state.mode.ignoreCase)
    | .set members => set members
    | .anchor condition => anchor condition
  state.push (some item)

/-- Open a group whose content is read in the given mode. -/
def State.openGroup (state : State) (mode : Mode) : State :=
  { state with
    mode := mode
    group := { outerMode := state.mode }
    outer := state.group :: state.outer }

/-- Close the innermost group. -/
def State.closeGroup (state : State) : Except SyntaxError State :=
  match state.outer with
  | [] => .error .unopenedGroup
  | enclosing :: outer =>
      .ok { state with
        mode := state.group.outerMode
        group := enclosing.push (some state.group.close)
        outer := outer }

/-- Repeat the last item, reading a `?` that turns its greed around. -/
def State.repeatLast
    (state : State)
    (least : Nat)
    (most : Option Nat)
    (rest : List Char) : Turn :=
  let lazy := (state.mode.skip rest).head? == some '?'
  let rest := if lazy then (state.mode.skip rest).drop 1 else rest
  let greedy := lazy == state.mode.swapGreed
  (state.group.repeatLast least most greedy).map fun group =>
    ({ state with group := group }, rest)

/-! ## Groups -/

/-- Whether a character can start the name of a group. -/
def isNameStart (character : Char) : Bool :=
  character == '_' || Unicode.isAlphabetic character

/-- Whether a character can stand in the name of a group. -/
def isNamePart (character : Char) : Bool :=
  isNameStart character || character == '.' || character == '[' ||
    character == ']' || Unicode.isNumber character.toNat

/-- Open a group with a name, which follows its `<`. -/
def State.openNamed (state : State) (characters : List Char) : Turn :=
  let name := characters.takeWhile (· != '>')
  if (name.head?.any isNameStart) && name.all isNamePart then
    match characters.drop name.length with
    | _ :: rest =>
        if state.names.contains name then
          .error (.duplicateGroupName (String.ofList name))
        else
          .ok ({ state.openGroup state.mode with names := name :: state.names },
            rest)
    | [] => .error .invalidGroupName
  else
    .error .invalidGroupName

/-- Open a group, or apply its flags, after its opening parenthesis. -/
def State.readGroup (state : State) (characters : List Char) : Turn :=
  match characters with
  | '?' :: '=' :: _ => .error .unsupportedLookaround
  | '?' :: '!' :: _ => .error .unsupportedLookaround
  | '?' :: '<' :: '=' :: _ => .error .unsupportedLookaround
  | '?' :: '<' :: '!' :: _ => .error .unsupportedLookaround
  | '?' :: '<' :: rest => state.openNamed rest
  | '?' :: 'P' :: '<' :: rest => state.openNamed rest
  | '?' :: rest =>
      (readFlags state.mode true [] rest).map fun flags =>
        if flags.directive then
          ({ state.push none with mode := flags.mode }, flags.rest)
        else
          (state.openGroup flags.mode, flags.rest)
  | rest => .ok (state.openGroup state.mode, rest)

/-! ## Items -/

/-- The set that a dot stands for. -/
def Mode.dot (mode : Mode) : Except SyntaxError CharSet :=
  if !mode.unicode then
    .error .partOfCharacter
  else if mode.dotAll then
    .ok .all
  else if mode.returns then
    .ok (.complement (.union (.single '\n') (.single '\r')))
  else
    .ok (.complement (.single '\n'))

/-- Read one item, which starts with the given character. -/
def State.readItem (state : State) (first : Char) (rest : List Char) :
    Except SyntaxError (State × List Char) :=
  let mode := state.mode
  match first with
  | '(' => state.readGroup (mode.skip rest)
  | ')' => state.closeGroup.map (·, rest)
  | '|' => .ok ({ state with group := state.group.alternate }, rest)
  | '[' =>
      (readBracket mode rest).map fun (members, rest) =>
        (state.push (some (set members)), rest)
  | '?' => state.repeatLast 0 (some 1) rest
  | '*' => state.repeatLast 0 none rest
  | '+' => state.repeatLast 1 none rest
  | '\x7B' => do
      let ((least, most), rest) ← readBounds mode rest
      state.repeatLast least most rest
  | '\\' =>
      (readEscape mode rest).map fun (atom, rest) =>
        (state.pushAtom atom, rest)
  | '.' => mode.dot.map fun members => (state.push (some (set members)), rest)
  | '^' =>
      let condition :=
        if mode.multiLine then Anchor.lineStart mode.returns else .textStart
      .ok (state.pushAtom (.anchor condition), rest)
  | '$' =>
      let condition :=
        if mode.multiLine then Anchor.lineEnd mode.returns else .textEnd
      .ok (state.pushAtom (.anchor condition), rest)
  | character => .ok (state.pushAtom (.character character), rest)

/-- The pattern of the state at the end of the text. -/
def State.finish (state : State) : Except SyntaxError Pattern :=
  if !state.outer.isEmpty then
    .error .unclosedGroup
  else if sizeBound < state.group.close.size then
    .error .tooLarge
  else
    .ok state.group.close

/-- Read items up to the end of the text; every turn reads a character. -/
def readItems : Nat → State → List Char → Except SyntaxError Pattern
  | 0, state, _ => state.finish
  | fuel + 1, state, characters =>
      match state.mode.skip characters with
      | [] => state.finish
      | first :: rest => do
          let (state, rest) ← state.readItem first rest
          readItems fuel state rest

/-- Read a pattern. -/
def parse (text : List Char) : Except SyntaxError Pattern :=
  readItems (text.length + 1) State.start text

/-- The text of a pattern that has to match at the end of a text. -/
def textAtEnd (text : String) : List Char :=
  "(?:".toList ++ text.toList ++ ")$".toList

/-- Read a pattern that has to match at the end of a text. -/
def parseAtEnd (text : String) : Except SyntaxError Pattern :=
  parse (textAtEnd text)

end Pattern
end RCompletion
