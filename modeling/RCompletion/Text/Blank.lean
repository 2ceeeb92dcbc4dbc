/-!
# White space

The blanks are the characters with the white-space property of the Unicode
standard.  Trimming removes them from both ends of a text and nowhere else.
-/

namespace RCompletion
namespace Text

/-- Whether a character has the white-space property of the Unicode standard. -/
def isBlank (character : Char) : Bool :=
  let point := character.toNat
  (0x9 ≤ point && point ≤ 0xD) || point == 0x20 || point == 0x85 ||
    point == 0xA0 || point == 0x1680 || (0x2000 ≤ point && point ≤ 0x200A) ||
    point == 0x2028 || point == 0x2029 || point == 0x202F ||
    point == 0x205F || point == 0x3000

/-- A list of characters without the blanks at its start. -/
def dropBlanks (characters : List Char) : List Char :=
  characters.dropWhile isBlank

/-- A list of characters without the blanks at its end. -/
def dropBlanksEnd (characters : List Char) : List Char :=
  (dropBlanks characters.reverse).reverse

/-- A list of characters without the blanks at both ends. -/
def trimmed (characters : List Char) : List Char :=
  dropBlanksEnd (dropBlanks characters)

/-- A text without the blanks at both ends. -/
def trim (text : String) : String :=
  String.ofList (trimmed text.toList)

@[simp]
theorem toList_trim (text : String) :
    (trim text).toList = trimmed text.toList := by
  simp [trim]

@[simp]
theorem dropBlanks_nil : dropBlanks [] = [] := rfl

/-- Dropping blanks stops at a character that is none. -/
theorem dropBlanks_cons_of_not_blank
    {character : Char}
    (visible : isBlank character = false)
    (rest : List Char) :
    dropBlanks (character :: rest) = character :: rest := by
  simp [dropBlanks, visible]

@[simp]
theorem trimmed_nil : trimmed [] = [] := rfl

end Text
end RCompletion
