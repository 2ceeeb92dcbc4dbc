import RCompletion.Text.Blank
import RCompletion.Unicode.Folding
import RCompletion.Unicode.Word

/-!
# Sets of characters

The sets that a pattern can name: ranges, the classes of word characters,
digits and blanks, general categories, and what bracket expressions build from
them by union, intersection, difference and complement.
-/

namespace RCompletion
namespace Pattern

/-- A set of characters, as a pattern describes it. -/
inductive CharSet where
  /-- No character. -/
  | none
  /-- Every character. -/
  | all
  /-- The characters from the first to the last one. -/
  | range (first last : Char)
  /-- The word characters. -/
  | word
  /-- The decimal digits. -/
  | digit
  /-- The white space. -/
  | blank
  /-- A group of general categories. -/
  | category (group : Unicode.CategoryGroup)
  /-- The characters that the set does not hold. -/
  | complement (set : CharSet)
  /-- The characters of either set. -/
  | union (left right : CharSet)
  /-- The characters of both sets. -/
  | inter (left right : CharSet)
  /-- The characters of the first set that the second does not hold. -/
  | diff (left right : CharSet)
  /-- The characters of exactly one of the sets. -/
  | symmDiff (left right : CharSet)
  /-- The characters that differ at most in case from one of the set. -/
  | caseless (set : CharSet)
deriving Repr, DecidableEq

namespace CharSet

/-- The set of one character. -/
def single (character : Char) : CharSet :=
  range character character

/-- Whether a set holds a character. -/
def contains : CharSet → Char → Bool
  | none, _ => false
  | all, _ => true
  | range first last, character => first ≤ character && character ≤ last
  | word, character => Unicode.isWord character
  | digit, character => Unicode.isDigit character
  | blank, character => Text.isBlank character
  | category group, character => group.contains character.toNat
  | complement set, character => !set.contains character
  | union left right, character =>
      left.contains character || right.contains character
  | inter left right, character =>
      left.contains character && right.contains character
  | diff left right, character =>
      left.contains character && !right.contains character
  | symmDiff left right, character =>
      xor (left.contains character) (right.contains character)
  | caseless set, character =>
      (Unicode.caseVariants character.toNat).any fun point =>
        set.contains (Char.ofNat point)

/-- The characters of any of the sets. -/
def unions : List CharSet → CharSet
  | [] => none
  | [set] => set
  | set :: sets => union set (unions sets)

/-- A set, or the characters outside it. -/
def negated (negate : Bool) (set : CharSet) : CharSet :=
  if negate then complement set else set

/-- A set, with or without regard to case. -/
def ignoringCase (ignore : Bool) (set : CharSet) : CharSet :=
  if ignore then caseless set else set

@[simp]
theorem contains_none (character : Char) :
    none.contains character = false := rfl

@[simp]
theorem contains_all (character : Char) :
    all.contains character = true := rfl

@[simp]
theorem contains_word (character : Char) :
    word.contains character = Unicode.isWord character := rfl

@[simp]
theorem contains_blank (character : Char) :
    blank.contains character = Text.isBlank character := rfl

@[simp]
theorem contains_complement (set : CharSet) (character : Char) :
    (complement set).contains character = !set.contains character := rfl

@[simp]
theorem contains_union (left right : CharSet) (character : Char) :
    (union left right).contains character =
      (left.contains character || right.contains character) := rfl

/-- A one-character set holds that character only. -/
@[simp]
theorem contains_single (member character : Char) :
    (single member).contains character = decide (character = member) := by
  simp only [single, contains, Char.le_def]
  by_cases equal : character = member
  · simp [equal]
  · have differ : character.val ≠ member.val :=
      fun same => equal (Char.ext same)
    simp only [equal, decide_false, Bool.and_eq_false_iff,
      decide_eq_false_iff_not]
    have asNat : character.val.toNat ≠ member.val.toNat :=
      fun same => differ (UInt32.toNat_inj.mp same)
    simp only [UInt32.le_iff_toNat_le]
    omega

/-! ## The classes with names of their own -/

/-- The ASCII class with a given name, as in `[:alpha:]`. -/
def ofAsciiName? (name : List Char) : Option CharSet :=
  let upper := range 'A' 'Z'
  let lower := range 'a' 'z'
  let digits := range '0' '9'
  let classes : List (String × CharSet) := [
    ("alnum", unions [digits, upper, lower]),
    ("alpha", union upper lower),
    ("ascii", range '\x00' '\x7F'),
    ("blank", union (single '\t') (single ' ')),
    ("cntrl", union (range '\x00' '\x1F') (single '\x7F')),
    ("digit", digits),
    ("graph", range '!' '~'),
    ("lower", lower),
    ("print", range ' ' '~'),
    ("punct", unions
      [range '!' '/', range ':' '@', range '[' '\x60', range '\x7B' '~']),
    ("space", union (range '\t' '\r') (single ' ')),
    ("upper", upper),
    ("word", unions [digits, upper, single '_', lower]),
    ("xdigit", unions [digits, range 'A' 'F', range 'a' 'f'])]
  (classes.find? fun entry => entry.1.toList == name).map (·.2)

/-- The ASCII word characters. -/
def asciiWord : CharSet :=
  unions [range '0' '9', range 'A' 'Z', single '_', range 'a' 'z']

/-- The ASCII blanks. -/
def asciiBlank : CharSet :=
  union (range '\t' '\r') (single ' ')

end CharSet
end Pattern
end RCompletion
