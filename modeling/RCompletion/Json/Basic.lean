import RCompletion.Text.Split

/-!
# Writing JSON

The values that are written, and their two written forms: compact, without any
blanks, and pretty, with one value or member a line and an indentation of two
spaces for every level.
-/

namespace RCompletion

/-- A value that is written as JSON. -/
inductive Json where
  /-- A string. -/
  | string (value : String)
  /-- A number. -/
  | natural (value : Nat)
  /-- An array. -/
  | array (items : List Json)
  /-- An object, with its members in the order in which they are written. -/
  | object (members : List (String × Json))
deriving Repr, BEq, Inhabited

namespace Json

/-! ## Strings -/

/-- The escape of a control character, with four hexadecimal digits. -/
def controlEscape (character : Char) : List Char :=
  let digits := Nat.toDigits 16 character.toNat
  ['\\', 'u'] ++ List.replicate (4 - digits.length) '0' ++ digits

/-- How a character is written in a string. -/
def writtenCharacter (character : Char) : List Char :=
  match character with
  | '"' => ['\\', '"']
  | '\\' => ['\\', '\\']
  | '\x08' => ['\\', 'b']
  | '\t' => ['\\', 't']
  | '\n' => ['\\', 'n']
  | '\x0C' => ['\\', 'f']
  | '\r' => ['\\', 'r']
  | _ =>
      if character.toNat < 0x20 then
        controlEscape character
      else
        [character]

/-- How a string is written. -/
def writtenString (value : String) : List Char :=
  '"' :: value.toList.flatMap writtenCharacter ++ ['"']

/-- How a number is written. -/
def writtenNatural (value : Nat) : List Char :=
  Nat.toDigits 10 value

/-! ## The compact form -/

mutual

/-- The characters of the compact form of a value. -/
def compactCharacters : Json → List Char
  | string value => writtenString value
  | natural value => writtenNatural value
  | array items => '[' :: compactItems items ++ [']']
  | object members => '\x7B' :: compactMembers members ++ ['\x7D']

/-- The characters of items with commas between them. -/
def compactItems : List Json → List Char
  | [] => []
  | [item] => compactCharacters item
  | item :: next :: items =>
      compactCharacters item ++ ',' :: compactItems (next :: items)

/-- The characters of members with commas between them. -/
def compactMembers : List (String × Json) → List Char
  | [] => []
  | [(name, value)] => writtenString name ++ ':' :: compactCharacters value
  | (name, value) :: next :: members =>
      writtenString name ++ ':' :: compactCharacters value ++
        ',' :: compactMembers (next :: members)

end

/-- The compact form of a value. -/
def compact (value : Json) : String :=
  String.ofList value.compactCharacters

/-! ## The pretty form -/

/-- A new line at a level of indentation. -/
def newLine (level : Nat) : List Char :=
  '\n' :: List.replicate (2 * level) ' '

mutual

/-- The characters of the pretty form of a value at a level. -/
def prettyCharacters (level : Nat) : Json → List Char
  | string value => writtenString value
  | natural value => writtenNatural value
  | array [] => ['[', ']']
  | array (item :: items) =>
      '[' :: prettyItems (level + 1) (item :: items) ++ newLine level ++ [']']
  | object [] => ['\x7B', '\x7D']
  | object (member :: members) =>
      '\x7B' :: prettyMembers (level + 1) (member :: members) ++ newLine level ++
        ['\x7D']

/-- The characters of items, one a line, with commas between them. -/
def prettyItems (level : Nat) : List Json → List Char
  | [] => []
  | [item] => newLine level ++ prettyCharacters level item
  | item :: next :: items =>
      newLine level ++ prettyCharacters level item ++
        ',' :: prettyItems level (next :: items)

/-- The characters of members, one a line, with commas between them. -/
def prettyMembers (level : Nat) : List (String × Json) → List Char
  | [] => []
  | [(name, value)] =>
      newLine level ++ writtenString name ++
        ':' :: ' ' :: prettyCharacters level value
  | (name, value) :: next :: members =>
      newLine level ++ writtenString name ++
        ':' :: ' ' :: prettyCharacters level value ++
        ',' :: prettyMembers level (next :: members)

end

/-- The pretty form of a value. -/
def pretty (value : Json) : String :=
  String.ofList (value.prettyCharacters 0)

end Json
end RCompletion
