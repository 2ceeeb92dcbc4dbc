import RCompletion.Unicode.Letter
import RCompletion.Unicode.Mark
import RCompletion.Unicode.Number
import RCompletion.Unicode.Punctuation
import RCompletion.Unicode.Separator
import RCompletion.Unicode.Symbol

/-!
# General categories

The classes of code points that a pattern can name: the general categories of
the Unicode standard, the groups of them, and three larger classes.  Names are
matched loosely, without regard to case, spaces, hyphens and underscores.
-/

namespace RCompletion
namespace Unicode

/-- A class of code points given by general categories. -/
inductive CategoryGroup where
  | any
  | ascii
  | assigned
  | letter
  | casedLetter
  | uppercaseLetter
  | lowercaseLetter
  | titlecaseLetter
  | modifierLetter
  | otherLetter
  | mark
  | nonspacingMark
  | spacingMark
  | enclosingMark
  | number
  | decimalNumber
  | letterNumber
  | otherNumber
  | punctuation
  | connectorPunctuation
  | dashPunctuation
  | openPunctuation
  | closePunctuation
  | initialPunctuation
  | finalPunctuation
  | otherPunctuation
  | symbol
  | mathSymbol
  | currencySymbol
  | modifierSymbol
  | otherSymbol
  | separator
  | spaceSeparator
  | lineSeparator
  | paragraphSeparator
  | other
  | control
  | format
  | surrogate
  | privateUse
  | unassigned
deriving Repr, DecidableEq

/-! ## Groups of categories -/

/-- Whether a code point is a letter. -/
def isLetter (point : Nat) : Bool :=
  covers lowercaseLetters point || covers uppercaseLetters point ||
    covers otherLetters point || covers modifierLetters point ||
    covers titlecaseLetters point

/-- Whether a code point is a combining mark. -/
def isMark (point : Nat) : Bool :=
  covers nonspacingMarks point || covers spacingMarks point ||
    covers enclosingMarks point

/-- Whether a code point is a number. -/
def isNumber (point : Nat) : Bool :=
  covers decimalNumbers point || covers letterNumbers point ||
    covers otherNumbers point

/-- Whether a code point is punctuation. -/
def isPunctuation (point : Nat) : Bool :=
  covers connectorPunctuation point || covers dashPunctuation point ||
    covers openPunctuation point || covers closePunctuation point ||
    covers initialPunctuation point || covers finalPunctuation point ||
    covers otherPunctuation point

/-- Whether a code point is a symbol. -/
def isSymbol (point : Nat) : Bool :=
  covers mathSymbols point || covers currencySymbols point ||
    covers modifierSymbols point || covers otherSymbols point

/-- Whether a code point is a separator. -/
def isSeparator (point : Nat) : Bool :=
  covers spaceSeparators point || covers lineSeparators point ||
    covers paragraphSeparators point

/-- Whether a code point stands for a character, a control or a private use. -/
def isAssigned (point : Nat) : Bool :=
  isLetter point || isMark point || isNumber point || isPunctuation point ||
    isSymbol point || isSeparator point || covers controls point ||
    covers formats point || covers surrogates point || covers privateUse point

/-- Whether a code point belongs to a class. -/
def CategoryGroup.contains : CategoryGroup → Nat → Bool
  | any, _ => true
  | ascii, point => point < 0x80
  | assigned, point => isAssigned point
  | letter, point => isLetter point
  | casedLetter, point =>
      covers uppercaseLetters point || covers lowercaseLetters point ||
        covers titlecaseLetters point
  | uppercaseLetter, point => covers uppercaseLetters point
  | lowercaseLetter, point => covers lowercaseLetters point
  | titlecaseLetter, point => covers titlecaseLetters point
  | modifierLetter, point => covers modifierLetters point
  | otherLetter, point => covers otherLetters point
  | mark, point => isMark point
  | nonspacingMark, point => covers nonspacingMarks point
  | spacingMark, point => covers spacingMarks point
  | enclosingMark, point => covers enclosingMarks point
  | number, point => isNumber point
  | decimalNumber, point => covers decimalNumbers point
  | letterNumber, point => covers letterNumbers point
  | otherNumber, point => covers otherNumbers point
  | punctuation, point => isPunctuation point
  | connectorPunctuation, point => covers Unicode.connectorPunctuation point
  | dashPunctuation, point => covers Unicode.dashPunctuation point
  | openPunctuation, point => covers Unicode.openPunctuation point
  | closePunctuation, point => covers Unicode.closePunctuation point
  | initialPunctuation, point => covers Unicode.initialPunctuation point
  | finalPunctuation, point => covers Unicode.finalPunctuation point
  | otherPunctuation, point => covers Unicode.otherPunctuation point
  | symbol, point => isSymbol point
  | mathSymbol, point => covers mathSymbols point
  | currencySymbol, point => covers currencySymbols point
  | modifierSymbol, point => covers modifierSymbols point
  | otherSymbol, point => covers otherSymbols point
  | separator, point => isSeparator point
  | spaceSeparator, point => covers spaceSeparators point
  | lineSeparator, point => covers lineSeparators point
  | paragraphSeparator, point => covers paragraphSeparators point
  | other, point =>
      covers controls point || covers formats point ||
        covers surrogates point || covers Unicode.privateUse point ||
        !isAssigned point
  | control, point => covers controls point
  | format, point => covers formats point
  | surrogate, point => covers surrogates point
  | privateUse, point => covers Unicode.privateUse point
  | unassigned, point => !isAssigned point

/-! ## Names -/

/-- The names of the classes, in the form that `normalizedName` gives. -/
def categoryNames : List (String × CategoryGroup) := [
  ("any", .any), ("ascii", .ascii), ("assigned", .assigned),
  ("l", .letter), ("letter", .letter),
  ("lc", .casedLetter), ("casedletter", .casedLetter),
  ("lu", .uppercaseLetter), ("uppercaseletter", .uppercaseLetter),
  ("ll", .lowercaseLetter), ("lowercaseletter", .lowercaseLetter),
  ("lt", .titlecaseLetter), ("titlecaseletter", .titlecaseLetter),
  ("lm", .modifierLetter), ("modifierletter", .modifierLetter),
  ("lo", .otherLetter), ("otherletter", .otherLetter),
  ("m", .mark), ("mark", .mark), ("combiningmark", .mark),
  ("mn", .nonspacingMark), ("nonspacingmark", .nonspacingMark),
  ("mc", .spacingMark), ("spacingmark", .spacingMark),
  ("me", .enclosingMark), ("enclosingmark", .enclosingMark),
  ("n", .number), ("number", .number),
  ("nd", .decimalNumber), ("decimalnumber", .decimalNumber),
  ("digit", .decimalNumber),
  ("nl", .letterNumber), ("letternumber", .letterNumber),
  ("no", .otherNumber), ("othernumber", .otherNumber),
  ("p", .punctuation), ("punctuation", .punctuation),
  ("punct", .punctuation),
  ("pc", .connectorPunctuation),
  ("connectorpunctuation", .connectorPunctuation),
  ("pd", .dashPunctuation), ("dashpunctuation", .dashPunctuation),
  ("ps", .openPunctuation), ("openpunctuation", .openPunctuation),
  ("pe", .closePunctuation), ("closepunctuation", .closePunctuation),
  ("pi", .initialPunctuation), ("initialpunctuation", .initialPunctuation),
  ("pf", .finalPunctuation), ("finalpunctuation", .finalPunctuation),
  ("po", .otherPunctuation), ("otherpunctuation", .otherPunctuation),
  ("s", .symbol), ("symbol", .symbol),
  ("sm", .mathSymbol), ("mathsymbol", .mathSymbol),
  ("sc", .currencySymbol), ("currencysymbol", .currencySymbol),
  ("sk", .modifierSymbol), ("modifiersymbol", .modifierSymbol),
  ("so", .otherSymbol), ("othersymbol", .otherSymbol),
  ("z", .separator), ("separator", .separator),
  ("zs", .spaceSeparator), ("spaceseparator", .spaceSeparator),
  ("zl", .lineSeparator), ("lineseparator", .lineSeparator),
  ("zp", .paragraphSeparator),
  ("paragraphseparator", .paragraphSeparator),
  ("c", .other), ("other", .other),
  ("cc", .control), ("control", .control), ("cntrl", .control),
  ("cf", .format), ("format", .format),
  ("cs", .surrogate), ("surrogate", .surrogate),
  ("co", .privateUse), ("privateuse", .privateUse),
  ("cn", .unassigned), ("unassigned", .unassigned)]

/--
A name in small letters, without spaces, hyphens and underscores, and without
a leading `is`; `isc` keeps it, since it is the name of another property.
-/
def normalizedName (name : List Char) : List Char :=
  let plain := (name.filter fun character =>
    character ≠ ' ' && character ≠ '_' && character ≠ '-').map Char.toLower
  match plain with
  | 'i' :: 's' :: 'c' :: [] => plain
  | 'i' :: 's' :: rest => rest
  | _ => plain

/-- The class of code points with a given name, if there is one. -/
def CategoryGroup.ofName? (name : List Char) : Option CategoryGroup :=
  let normalized := normalizedName name
  (categoryNames.find? fun entry => entry.1.toList == normalized).map (·.2)

end Unicode
end RCompletion
