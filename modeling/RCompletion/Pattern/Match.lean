import RCompletion.Pattern.Basic

/-!
# Matching

A match of a pattern starts as far left as possible.  Among the matches with
that start, earlier choices come first and a repetition comes first with more
rounds if it is greedy, with fewer otherwise.  The positions where matches from
one start can end are therefore listed best first, and the best one is taken.
-/

namespace RCompletion
namespace Pattern

/-! ## Anchors -/

/-- Whether the character before a position belongs to a set. -/
def memberBefore (text : Array Char) (position : Nat) (members : CharSet) : Bool :=
  match position with
  | 0 => false
  | before + 1 => (text[before]?).any members.contains

/-- Whether the character after a position belongs to a set. -/
def memberAfter (text : Array Char) (position : Nat) (members : CharSet) : Bool :=
  (text[position]?).any members.contains

/-- Whether the condition of an anchor holds at a position. -/
def Anchor.holds (text : Array Char) (position : Nat) : Anchor → Bool
  | textStart => position == 0
  | textEnd => position == text.size
  | lineStart returns =>
      position == 0 || memberBefore text position (CharSet.single '\n') ||
        (returns && memberBefore text position (CharSet.single '\r') &&
          !memberAfter text position (CharSet.single '\n'))
  | lineEnd returns =>
      position == text.size ||
        (returns && memberAfter text position (CharSet.single '\r')) ||
        (memberAfter text position (CharSet.single '\n') &&
          !(returns && memberBefore text position (CharSet.single '\r')))
  | boundary letters =>
      memberBefore text position letters != memberAfter text position letters
  | noBoundary letters =>
      memberBefore text position letters == memberAfter text position letters
  | wordStart letters =>
      !memberBefore text position letters && memberAfter text position letters
  | wordEnd letters =>
      memberBefore text position letters && !memberAfter text position letters
  | wordStartHalf letters => !memberBefore text position letters
  | wordEndHalf letters => !memberAfter text position letters

/-! ## Repetition -/

/--
The positions after one or more rounds of a step, best first, appended to the
positions found so far.  Rounds go on from a position only the first time it is
found, and an empty round ends the repetition.
-/
def rounds
    (step : Nat → List Nat)
    (greedy : Bool) :
    Nat → List Nat → Nat → List Nat
  | 0, found, _ => found
  | fuel + 1, found, position =>
      (step position).foldl (fun found next =>
        if found.contains next then
          found
        else if next = position then
          found ++ [next]
        else if greedy then
          let deeper := rounds step greedy fuel found next
          if deeper.contains next then deeper else deeper ++ [next]
        else
          rounds step greedy fuel (found ++ [next]) next) found

/-- The positions after any number of rounds of a step, best first. -/
def anyRounds
    (step : Nat → List Nat)
    (greedy : Bool)
    (fuel position : Nat) : List Nat :=
  let more := rounds step greedy fuel [] position
  (if greedy then more ++ [position] else position :: more).eraseDups

/--
The positions after at most so many rounds of a step, best first, each with the
number of rounds that are left, appended to those found so far.  Rounds go on
from a position with a number of rounds left only the first time.
-/
def countedRounds
    (step : Nat → List Nat)
    (greedy : Bool) :
    Nat → List (Nat × Nat) → Nat → List (Nat × Nat)
  | 0, found, position =>
      if found.contains (0, position) then found else found ++ [(0, position)]
  | count + 1, found, position =>
      let here := (count + 1, position)
      if found.contains here then
        found
      else if greedy then
        (step position).foldl (countedRounds step greedy count) found ++ [here]
      else
        (step position).foldl (countedRounds step greedy count) (found ++ [here])

/-- The positions after at most so many rounds of a step, best first. -/
def atMostRounds
    (step : Nat → List Nat)
    (greedy : Bool)
    (count position : Nat) : List Nat :=
  ((countedRounds step greedy count [] position).map (·.2)).eraseDups

/-- The positions after exactly so many rounds of a step, best first. -/
def exactRounds (step : Nat → List Nat) : Nat → List Nat → List Nat
  | 0, positions => positions
  | count + 1, positions =>
      exactRounds step count (positions.flatMap step).eraseDups

/-! ## Patterns -/

/-- The positions where a match from a given start can end, best first. -/
def ends (text : Array Char) : Pattern → Nat → List Nat
  | empty, position => [position]
  | set members, position =>
      if memberAfter text position members then [position + 1] else []
  | anchor condition, position =>
      if condition.holds text position then [position] else []
  | sequence first second, position =>
      ((ends text first position).flatMap (ends text second)).eraseDups
  | choice first second, position =>
      (ends text first position ++ ends text second position).eraseDups
  | repetition body least most greedy, position =>
      let step := ends text body
      let further :=
        match most with
        | none => anyRounds step greedy (text.size + 1)
        | some most => atMostRounds step greedy (min (most - least) (text.size + 1))
      ((exactRounds step least [position]).flatMap further).eraseDups

@[simp]
theorem ends_empty (text : Array Char) (position : Nat) :
    ends text empty position = [position] := rfl

@[simp]
theorem ends_set (text : Array Char) (members : CharSet) (position : Nat) :
    ends text (set members) position =
      if memberAfter text position members then [position + 1] else [] := rfl

@[simp]
theorem ends_anchor (text : Array Char) (condition : Anchor) (position : Nat) :
    ends text (anchor condition) position =
      if condition.holds text position then [position] else [] := rfl

/-- Exactly one round is one step. -/
@[simp]
theorem exactRounds_one (step : Nat → List Nat) (position : Nat) :
    exactRounds step 1 [position] = (step position).eraseDups := by
  simp [exactRounds]

/-- The start and the end of a match. -/
structure Span where
  /-- The position of the first matched character. -/
  start : Nat
  /-- The position after the last matched character. -/
  stop : Nat
deriving Repr, DecidableEq

/-- The number of matched characters. -/
def Span.length (span : Span) : Nat :=
  span.stop - span.start

/-- The best match from a given start, if there is one. -/
def matchAt? (pattern : Pattern) (text : Array Char) (start : Nat) : Option Span :=
  (ends text pattern start).head?.map (Span.mk start)

/-- The leftmost match of a pattern in a text, if there is one. -/
def find? (pattern : Pattern) (text : List Char) : Option Span :=
  let characters := text.toArray
  (List.range (characters.size + 1)).findSome? (pattern.matchAt? characters)

/-- Whether a pattern matches somewhere in a text. -/
def occursIn (pattern : Pattern) (text : List Char) : Bool :=
  (pattern.find? text).isSome

end Pattern
end RCompletion
