import RCompletion.Pattern.Basic

/-!
# Size

A short pattern can stand for a long one, since a counted repetition stands for
as many copies of what it repeats.  The size of a pattern is the number of
steps of the pattern with all copies written out, and patterns above a bound
are refused.
-/

namespace RCompletion
namespace Pattern

/--
The size of a set: a character of ASCII is told in one step, one beyond it byte
by byte, and a large class by as many steps as it has separate stretches.
-/
def CharSet.size : CharSet → Nat
  | none => 1
  | all => 8
  | range _ last => if last.toNat < 0x80 then 1 else 8
  | word => 1400
  | digit => 160
  | blank => 16
  | category _ => 1400
  | complement members => members.size + 8
  | union left right => left.size + right.size
  | inter left _ => left.size
  | diff left _ => left.size
  | symmDiff left right => left.size + right.size
  | caseless members => 2 * members.size

/-- The number of steps of a pattern with all repetitions written out. -/
def size : Pattern → Nat
  | empty => 1
  | set members => members.size
  | anchor _ => 1
  | sequence first second => first.size + second.size
  | choice first second => first.size + second.size + 1
  | repetition body least none _ => body.size * max 1 least + 1
  | repetition body least (some most) _ => body.size * most + (most - least)

/-- The largest size of a pattern. -/
def sizeBound : Nat :=
  327680

end Pattern
end RCompletion
