import RCompletion.Pattern.Basic
import RCompletion.Pattern.Mode
import RCompletion.Text.Hexadecimal

/-!
# Escapes

What a backslash and the characters after it stand for: a character, a set of
characters or an anchor.  A property in braces is a general category or white
space; other properties, such as the script `\p{Greek}` or the binary
`\p{Alphabetic}` and `\p{XID_Start}`, are not known and are refused.
-/

namespace RCompletion
namespace Pattern

/-- What an escape, or one character of a pattern, stands for. -/
inductive Atom where
  /-- One character. -/
  | character (value : Char)
  /-- A set of characters. -/
  | set (members : CharSet)
  /-- A condition on the position. -/
  | anchor (condition : Anchor)
deriving Repr, DecidableEq

/-- What reading a part of a pattern gives, together with the rest of it. -/
abbrev Reading (α : Type) :=
  Except SyntaxError (α × List Char)

/-- Skip blanks, and comments up to the end of their line. -/
def skipComments (inComment : Bool) : List Char → List Char
  | [] => []
  | character :: rest =>
      if inComment then
        skipComments (character != '\n') rest
      else if Text.isBlank character then
        skipComments false rest
      else if character == '#' then
        skipComments true rest
      else
        character :: rest

/-- Skip what a verbose pattern does not mean. -/
def Mode.skip (mode : Mode) (characters : List Char) : List Char :=
  if mode.verbose then skipComments false characters else characters

/-! ## Code points -/

/-- The character that hexadecimal digits name. -/
def readCodePoint (digits : List Char) (rest : List Char) : Reading Atom :=
  match Text.hexNumber? digits with
  | some point =>
      if point.isValidChar then
        .ok (.character (Char.ofNat point), rest)
      else
        .error .invalidCodePoint
  | none => .error .invalidCodePoint

/-- Read a code point, written with a fixed number of digits or in braces. -/
def readHex (width : Nat) (characters : List Char) : Reading Atom :=
  match characters with
  | '\x7B' :: rest =>
      match rest.dropWhile (· != '\x7D') with
      | _ :: after => readCodePoint (rest.takeWhile (· != '\x7D')) after
      | [] => .error .invalidCodePoint
  | _ =>
      if characters.length < width then
        .error .invalidCodePoint
      else
        readCodePoint (characters.take width) (characters.drop width)

/-! ## Classes -/

/-- A class, or the characters outside it, in the given mode. -/
def Mode.classAtom (mode : Mode) (negate : Bool) (full ascii : CharSet) :
    Except SyntaxError Atom :=
  if mode.unicode then
    .ok (.set (full.negated negate))
  else if negate then
    .error .partOfCharacter
  else
    .ok (.set ascii)

/-- The characters that count as letters of a word in the given mode. -/
def Mode.letters (mode : Mode) : CharSet :=
  if mode.unicode then .word else .asciiWord

/--
The set that a category name, or a property and its value, stands for.  Of the
properties, the general category and white space are known.
-/
def categoryOfName? (name : List Char) : Option (Bool × CharSet) :=
  let before := name.takeWhile fun character =>
    character != '=' && character != ':' && character != '!'
  let value? : Option (Bool × List Char) :=
    match name.drop before.length with
    | '!' :: '=' :: value => some (true, value)
    | ':' :: value => some (false, value)
    | '=' :: value => some (false, value)
    | _ => none
  match value? with
  | some (negate, value) =>
      let property := Unicode.normalizedName before
      if property == "gc".toList || property == "generalcategory".toList then
        (Unicode.CategoryGroup.ofName? value).map fun group =>
          (negate, .category group)
      else
        none
  | none =>
      let normalized := Unicode.normalizedName name
      if normalized == "whitespace".toList || normalized == "wspace".toList ||
          normalized == "space".toList then
        some (false, .blank)
      else
        (Unicode.CategoryGroup.ofName? name).map fun group =>
          (false, .category group)

/-- The atom of a category, or of the characters outside it. -/
def Mode.categoryAtom (mode : Mode) (negate : Bool) (name : List Char) :
    Except SyntaxError Atom :=
  if mode.unicode then
    match categoryOfName? name with
    | some (inverse, members) =>
        .ok (.set ((members.ignoringCase mode.ignoreCase).negated
          (negate != inverse)))
    | none => .error .unknownCategory
  else
    .error .unknownCategory

/-- Read the name of a category: one letter, or a name in braces. -/
def readCategory (mode : Mode) (negate : Bool) : List Char → Reading Atom
  | [] => .error .unknownCategory
  | '\x7B' :: rest =>
      match rest.dropWhile (· != '\x7D') with
      | _ :: after =>
          (mode.categoryAtom negate (rest.takeWhile (· != '\x7D'))).map
            fun atom => (atom, after)
      | [] => .error .unknownCategory
  | letter :: rest =>
      (mode.categoryAtom negate [letter]).map fun atom => (atom, rest)

/-! ## Word boundaries -/

/-- Whether a character can occur in the name of a kind of word boundary. -/
def isBoundaryLetter (character : Char) : Bool :=
  character.isAlpha || character == '-'

/-- Read what follows `\b`: a kind of boundary in braces, or nothing. -/
def readBoundary (mode : Mode) (characters : List Char) : Reading Atom :=
  let letters := mode.letters
  match characters with
  | '\x7B' :: rest =>
      match rest with
      | [] => .error .invalidEscape
      | first :: _ =>
          if isBoundaryLetter first then
            let name := String.ofList (rest.takeWhile isBoundaryLetter)
            match rest.dropWhile isBoundaryLetter with
            | '\x7D' :: after =>
                if name == "start" then
                  .ok (.anchor (.wordStart letters), after)
                else if name == "end" then
                  .ok (.anchor (.wordEnd letters), after)
                else if name == "start-half" then
                  .ok (.anchor (.wordStartHalf letters), after)
                else if name == "end-half" then
                  .ok (.anchor (.wordEndHalf letters), after)
                else
                  .error .invalidEscape
            | _ => .error .invalidEscape
          else
            .ok (.anchor (.boundary letters), characters)
  | _ => .ok (.anchor (.boundary letters), characters)

/-! ## Escapes -/

/-- Whether a character stands for itself after a backslash. -/
def isEscapable (character : Char) : Bool :=
  character.toNat < 0x80 && !character.isAlphanum && character != '<' &&
    character != '>'

/-- Read an escape, which follows its backslash. -/
def readEscape (mode : Mode) : List Char → Reading Atom
  | [] => .error .invalidEscape
  | letter :: rest =>
      if letter.isDigit then
        .error .unsupportedBackreference
      else if isEscapable letter then
        .ok (.character letter, rest)
      else
        match letter with
        | 'x' => readHex 2 rest
        | 'u' => readHex 4 rest
        | 'U' => readHex 8 rest
        | 'p' => readCategory mode false rest
        | 'P' => readCategory mode true rest
        | 'd' => (mode.classAtom false .digit (.range '0' '9')).map (·, rest)
        | 'D' => (mode.classAtom true .digit (.range '0' '9')).map (·, rest)
        | 's' => (mode.classAtom false .blank .asciiBlank).map (·, rest)
        | 'S' => (mode.classAtom true .blank .asciiBlank).map (·, rest)
        | 'w' => (mode.classAtom false .word .asciiWord).map (·, rest)
        | 'W' => (mode.classAtom true .word .asciiWord).map (·, rest)
        | 'a' => .ok (.character '\x07', rest)
        | 'f' => .ok (.character '\x0C', rest)
        | 't' => .ok (.character '\t', rest)
        | 'n' => .ok (.character '\n', rest)
        | 'r' => .ok (.character '\r', rest)
        | 'v' => .ok (.character '\x0B', rest)
        | 'A' => .ok (.anchor .textStart, rest)
        | 'z' => .ok (.anchor .textEnd, rest)
        | 'b' => readBoundary mode rest
        | 'B' => .ok (.anchor (.noBoundary mode.letters), rest)
        | '<' => .ok (.anchor (.wordStart mode.letters), rest)
        | '>' => .ok (.anchor (.wordEnd mode.letters), rest)
        | _ => .error .invalidEscape

end Pattern
end RCompletion
