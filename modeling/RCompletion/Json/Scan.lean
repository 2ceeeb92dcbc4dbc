import RCompletion.Json.Error
import RCompletion.Text.Hexadecimal

/-!
# Characters of a JSON text

Blanks, literals, escapes and strings.  A string that is read must be made of
characters; in a string that is skipped, an escape may name half of a pair.
-/

namespace RCompletion
namespace Json

/-- Whether a character may stand between the parts of a text. -/
def isBlank (character : Char) : Bool :=
  character == ' ' || character == '\n' || character == '\t' || character == '\r'

/-- The rest of a text after blanks. -/
def dropBlanks (text : List Char) : List Char :=
  text.dropWhile isBlank

/-- Read the characters of a literal. -/
def readLiteral : List Char → List Char → Except Error (List Char)
  | [], text => .ok text
  | _ :: _, [] => .error .truncated
  | expected :: literal, character :: text =>
      if character = expected then
        readLiteral literal text
      else
        .error .malformed

/-- Read the colon after the name of a field. -/
def readColon (text : List Char) : Except Error (List Char) :=
  match dropBlanks text with
  | [] => .error .truncated
  | ':' :: rest => .ok rest
  | _ => .error .malformed

/-! ## Escapes -/

/-- The number of bytes that encode a text. -/
def byteCount (text : List Char) : Nat :=
  text.foldl (fun count character => count + character.utf8Size) 0

/-- Read four hexadecimal digits; a text of fewer than four bytes is too short. -/
def readHexQuad (text : List Char) : Except Error (Nat × List Char) :=
  match text with
  | first :: second :: third :: fourth :: rest =>
      match Text.hexNumber? [first, second, third, fourth] with
      | some value => .ok (value, rest)
      | none => .error .malformed
  | _ => .error (if byteCount text < 4 then .truncated else .malformed)

/-- Whether a number is the first half of a pair. -/
def isHighSurrogate (value : Nat) : Bool :=
  0xD800 ≤ value && value ≤ 0xDBFF

/-- Whether a number is the second half of a pair. -/
def isLowSurrogate (value : Nat) : Bool :=
  0xDC00 ≤ value && value ≤ 0xDFFF

/-- The character that a pair names. -/
def pairCharacter (high low : Nat) : Char :=
  Char.ofNat (0x10000 + (high - 0xD800) * 0x400 + (low - 0xDC00))

/-- Read the second half of a pair. -/
def readLowSurrogate (high : Nat) (text : List Char) :
    Except Error (Char × List Char) :=
  match text with
  | [] => .error .truncated
  | ['\\'] => .error .truncated
  | '\\' :: 'u' :: rest => do
      let (low, rest) ← readHexQuad rest
      if isLowSurrogate low then
        return (pairCharacter high low, rest)
      else
        throw .malformed
  | _ => .error .malformed

/-- Read the code point of an escape, which follows its `u`. -/
def readCodePoint (text : List Char) : Except Error (Char × List Char) := do
  let (value, rest) ← readHexQuad text
  if isLowSurrogate value then
    throw .malformed
  else if isHighSurrogate value then
    readLowSurrogate value rest
  else
    return (Char.ofNat value, rest)

/-- The character that a letter after a backslash stands for. -/
def shortEscape? : Char → Option Char
  | '"' => some '"'
  | '\\' => some '\\'
  | '/' => some '/'
  | 'b' => some '\x08'
  | 'f' => some '\x0C'
  | 'n' => some '\n'
  | 'r' => some '\r'
  | 't' => some '\t'
  | _ => none

/-- Read an escape, which follows its backslash. -/
def readEscape : List Char → Except Error (Char × List Char)
  | [] => .error .truncated
  | 'u' :: rest => readCodePoint rest
  | letter :: rest =>
      match shortEscape? letter with
      | some character => .ok (character, rest)
      | none => .error .malformed

/-- Skip an escape, which follows its backslash. -/
def skipEscape : List Char → Except Error (List Char)
  | [] => .error .truncated
  | 'u' :: rest => (readHexQuad rest).map (·.2)
  | letter :: rest =>
      if (shortEscape? letter).isSome then .ok rest else .error .malformed

/-! ## Strings -/

/-- Whether a character has to be escaped in a string. -/
def isControl (character : Char) : Bool :=
  character.toNat < 0x20

/--
Read the characters of a string up to its closing quotation mark.  Every turn
reads at least one character of the text.
-/
def readCharacters : Nat → List Char → Except Error (List Char × List Char)
  | 0, _ => .error .truncated
  | _ + 1, [] => .error .truncated
  | fuel + 1, character :: text =>
      if character = '"' then
        .ok ([], text)
      else if character = '\\' then do
        let (escaped, rest) ← readEscape text
        let (characters, rest) ← readCharacters fuel rest
        return (escaped :: characters, rest)
      else if isControl character then
        .error .malformed
      else do
        let (characters, rest) ← readCharacters fuel text
        return (character :: characters, rest)

/-- Read a string, which follows its opening quotation mark. -/
def readStringBody (text : List Char) : Except Error (String × List Char) :=
  (readCharacters (text.length + 1) text).map fun (characters, rest) =>
    (String.ofList characters, rest)

/-- Skip the characters of a string up to its closing quotation mark. -/
def skipCharacters : Nat → List Char → Except Error (List Char)
  | 0, _ => .error .truncated
  | _ + 1, [] => .error .truncated
  | fuel + 1, character :: text =>
      if character = '"' then
        .ok text
      else if character = '\\' then do
        let rest ← skipEscape text
        skipCharacters fuel rest
      else if isControl character then
        .error .malformed
      else
        skipCharacters fuel text

/-- Skip a string, which follows its opening quotation mark. -/
def skipStringBody (text : List Char) : Except Error (List Char) :=
  skipCharacters (text.length + 1) text

end Json
end RCompletion
