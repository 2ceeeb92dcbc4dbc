/-!
# Hexadecimal digits

The values of the digits that escapes are written with.
-/

namespace RCompletion
namespace Text

/-- The value of a hexadecimal digit. -/
def hexValue? (character : Char) : Option Nat :=
  if '0' ≤ character ∧ character ≤ '9' then
    some (character.toNat - '0'.toNat)
  else if 'a' ≤ character ∧ character ≤ 'f' then
    some (character.toNat - 'a'.toNat + 10)
  else if 'A' ≤ character ∧ character ≤ 'F' then
    some (character.toNat - 'A'.toNat + 10)
  else
    none

/-- The number that hexadecimal digits write, if they are at least one and no other. -/
def hexNumber? (digits : List Char) : Option Nat :=
  if digits.isEmpty then
    none
  else
    digits.foldlM (fun value digit => (hexValue? digit).map (value * 16 + ·)) 0

end Text
end RCompletion
