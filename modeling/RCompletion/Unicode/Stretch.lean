/-!
# Stretches of code points

A property of characters is given by the code points that have it, written as
arithmetic progressions.  Most of them have step one; alphabets that alternate
between capital and small letters have step two.
-/

namespace RCompletion
namespace Unicode

/-- An arithmetic progression of code points. -/
structure Stretch where
  /-- The smallest code point. -/
  first : Nat
  /-- The largest code point. -/
  last : Nat
  /-- The distance between neighbours. -/
  step : Nat
deriving Repr, DecidableEq

/-- Whether a code point lies on a stretch. -/
def Stretch.contains (stretch : Stretch) (point : Nat) : Bool :=
  stretch.first ≤ point && point ≤ stretch.last &&
    (point - stretch.first) % stretch.step == 0

/-- Whether a code point lies on one of the stretches of a table. -/
def covers (table : List Stretch) (point : Nat) : Bool :=
  table.any (·.contains point)

end Unicode
end RCompletion
