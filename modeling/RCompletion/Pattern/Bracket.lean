import RCompletion.Pattern.Escape

/-!
# Bracket expressions

A bracket expression lists characters, ranges and classes, may hold further
bracket expressions, and combines what stands on both sides of `&&`, `--` and
`~~`, from left to right and with equal rank.  The reader walks over it once,
with a stack of the expressions that are still open.
-/

namespace RCompletion
namespace Pattern

/-- An operation between the two sides of a bracket expression. -/
inductive SetOperation where
  /-- `&&`. -/
  | inter
  /-- `--`. -/
  | diff
  /-- `~~`. -/
  | symmDiff
deriving Repr, DecidableEq

/-- The set that an operation gives. -/
def SetOperation.apply : SetOperation → CharSet → CharSet → CharSet
  | inter => .inter
  | diff => .diff
  | symmDiff => .symmDiff

/-- A bracket expression that is still open. -/
structure OpenBracket where
  /-- Whether the expression stands for the characters outside it. -/
  negate : Bool
  /-- The set left of the last operation, and the operation. -/
  left : Option (CharSet × SetOperation) := none
  /-- The members since the last operation, last one first. -/
  members : List CharSet

/-- Add a member to an open expression. -/
def OpenBracket.push (bracket : OpenBracket) (member : CharSet) : OpenBracket :=
  { bracket with members := member :: bracket.members }

/-- The set of what an open expression holds so far. -/
def OpenBracket.contents (bracket : OpenBracket) (mode : Mode) : CharSet :=
  let right := CharSet.unions bracket.members.reverse
  match bracket.left with
  | none => right
  | some (left, operation) =>
      operation.apply
        (left.ignoringCase mode.ignoreCase)
        (right.ignoringCase mode.ignoreCase)

/-- Go on to the right side of an operation. -/
def OpenBracket.operate
    (bracket : OpenBracket)
    (mode : Mode)
    (operation : SetOperation) : OpenBracket :=
  { bracket with left := some (bracket.contents mode, operation), members := [] }

/-- The set of a closed expression. -/
def OpenBracket.close (bracket : OpenBracket) (mode : Mode) :
    Except SyntaxError CharSet :=
  if bracket.negate && !mode.unicode then
    .error .partOfCharacter
  else
    .ok (((bracket.contents mode).ignoringCase mode.ignoreCase).negated
      bracket.negate)

/-! ## Reading -/

/--
Read the hyphens at the start of a bracket expression, which stand for
themselves, and then a closing bracket if it is the first member.
-/
def readLeadingMembers
    (mode : Mode)
    (members : List CharSet) :
    List Char → List CharSet × List Char
  | '-' :: rest =>
      readLeadingMembers mode (.single '-' :: members) rest
  | ']' :: rest =>
      if members.isEmpty then
        ([.single ']'], mode.skip rest)
      else
        (members, ']' :: rest)
  | characters => (members, characters)

/-- Read the start of a bracket expression, which follows its `[`. -/
def readBracketOpen (mode : Mode) (characters : List Char) : OpenBracket × List Char :=
  match mode.skip characters with
  | '^' :: rest =>
      let (members, rest) := readLeadingMembers mode [] (mode.skip rest)
      (⟨true, none, members⟩, rest)
  | characters =>
      let (members, rest) := readLeadingMembers mode [] characters
      (⟨false, none, members⟩, rest)

/-- Read a class such as `[:alpha:]`, if one follows the `[`. -/
def readAsciiClass? (mode : Mode) (characters : List Char) :
    Option (CharSet × List Char) :=
  match characters with
  | ':' :: rest =>
      let negate := rest.head? == some '^'
      let named := if negate then rest.drop 1 else rest
      let name := named.takeWhile (· != ':')
      match named.drop name.length with
      | ':' :: ']' :: after =>
          (CharSet.ofAsciiName? name).map fun members =>
            ((members.ignoringCase mode.ignoreCase).negated negate, after)
      | _ => none
  | _ => none

/-- Read one character or escape of a bracket expression. -/
def readMember (mode : Mode) : List Char → Reading Atom
  | [] => .error .unclosedBracket
  | '\\' :: rest => readEscape mode rest
  | character :: rest => .ok (.character character, rest)

/-- Whether what follows a member makes it the start of a range. -/
def startsRange (mode : Mode) : List Char → Bool
  | '-' :: rest =>
      match mode.skip rest with
      | ']' :: _ => false
      | '-' :: _ => false
      | _ => true
  | _ => false

/-- Read a member of a bracket expression: a character, a class or a range. -/
def readRange (mode : Mode) (characters : List Char) :
    Except SyntaxError (CharSet × List Char) := do
  let (first, rest) ← readMember mode characters
  let rest := mode.skip rest
  if rest.isEmpty then
    throw .unclosedBracket
  if startsRange mode rest then
    let (last, after) ← readMember mode (mode.skip (rest.drop 1))
    match first, last with
    | .character first, .character last =>
        if first ≤ last then
          return (.range first last, after)
        else
          throw .invalidRange
    | _, _ => throw .invalidRange
  else
    match first with
    | .character character => return (.single character, rest)
    | .set members => return (members, rest)
    | .anchor _ => throw .invalidMember

/--
Read the rest of a bracket expression, given the innermost open expression and
the ones around it.  Every turn reads at least one character.
-/
def readBracketRest
    (mode : Mode) :
    Nat → OpenBracket → List OpenBracket → List Char →
      Except SyntaxError (CharSet × List Char)
  | 0, _, _, _ => .error .unclosedBracket
  | fuel + 1, bracket, outer, characters =>
      match mode.skip characters with
      | [] => .error .unclosedBracket
      | '[' :: rest =>
          match readAsciiClass? mode rest with
          | some (members, rest) =>
              readBracketRest mode fuel (bracket.push members) outer rest
          | none =>
              let (inner, rest) := readBracketOpen mode rest
              readBracketRest mode fuel inner (bracket :: outer) rest
      | ']' :: rest => do
          let members ← bracket.close mode
          match outer with
          | [] => return (members, rest)
          | enclosing :: outer =>
              readBracketRest mode fuel (enclosing.push members) outer rest
      | '&' :: '&' :: rest =>
          readBracketRest mode fuel (bracket.operate mode .inter) outer rest
      | '-' :: '-' :: rest =>
          readBracketRest mode fuel (bracket.operate mode .diff) outer rest
      | '~' :: '~' :: rest =>
          readBracketRest mode fuel (bracket.operate mode .symmDiff) outer rest
      | characters => do
          let (members, rest) ← readRange mode characters
          readBracketRest mode fuel (bracket.push members) outer rest

/-- Read a bracket expression, which follows its `[`. -/
def readBracket (mode : Mode) (characters : List Char) : Reading CharSet :=
  let (bracket, rest) := readBracketOpen mode characters
  readBracketRest mode (rest.length + 1) bracket [] rest

end Pattern
end RCompletion
