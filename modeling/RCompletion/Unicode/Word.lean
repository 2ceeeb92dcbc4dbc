import RCompletion.Unicode.Category

/-!
# Word characters

The word characters of a pattern: letters, combining marks, decimal digits,
connecting punctuation, the numbers and circled letters that count as
alphabetic, and the two joiners.  Among the ASCII characters these are the
letters, the digits and the underscore.
-/

namespace RCompletion
namespace Unicode

/-- The circled and squared letters that count as alphabetic. -/
def circledLetters : List Stretch := [
  ⟨0x24B6, 0x24E9, 1⟩, ⟨0x1F130, 0x1F149, 1⟩, ⟨0x1F150, 0x1F169, 1⟩,
  ⟨0x1F170, 0x1F189, 1⟩]

/-- Whether an ASCII character is a letter, a digit or the underscore. -/
def isAsciiWord (character : Char) : Bool :=
  character.isAlphanum || character == '_'

/-- Whether a code point is alphabetic or a letter's mark. -/
def isAlphabeticOrMark (point : Nat) : Bool :=
  isLetter point || isMark point || covers letterNumbers point ||
    covers circledLetters point

/-- Whether a character can be part of a word. -/
def isWord (character : Char) : Bool :=
  if character.toNat < 0x80 then
    isAsciiWord character
  else
    let point := character.toNat
    isAlphabeticOrMark point || covers decimalNumbers point ||
      covers connectorPunctuation point || point == 0x200C || point == 0x200D

/-- Whether a character is a decimal digit of some script. -/
def isDigit (character : Char) : Bool :=
  if character.toNat < 0x80 then
    character.isDigit
  else
    covers decimalNumbers character.toNat

/-- Whether a character is a letter, or a number that counts as one. -/
def isAlphabetic (character : Char) : Bool :=
  if character.toNat < 0x80 then
    character.isAlpha
  else
    let point := character.toNat
    isLetter point || covers letterNumbers point || covers circledLetters point

/-- An underscore is a word character, so it adds nothing to those. -/
theorem isWord_or_underscore_or (character : Char) (other : Bool) :
    (isWord character || (decide (character = '_') || other)) =
      (isWord character || other) := by
  have underscore : isWord '_' = true := by decide
  by_cases same : character = '_'
  · rw [same, underscore, Bool.true_or, Bool.true_or]
  · rw [decide_eq_false same, Bool.false_or]

end Unicode
end RCompletion
