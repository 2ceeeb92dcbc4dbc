import RCompletion.Pattern.CharSet

/-!
# Patterns

The tree of a pattern: character sets, anchors, sequence, choice and
repetition.  Groups leave no trace in the tree, since a match is asked for its
start and its end only.
-/

namespace RCompletion

/-- A condition on a position of a text that consumes nothing. -/
inductive Pattern.Anchor where
  /-- The start of the text. -/
  | textStart
  /-- The end of the text. -/
  | textEnd
  /-- The start of a line; a carriage return ends lines too if told so. -/
  | lineStart (returns : Bool)
  /-- The end of a line; a carriage return ends lines too if told so. -/
  | lineEnd (returns : Bool)
  /-- A member of the set on exactly one side. -/
  | boundary (letters : Pattern.CharSet)
  /-- Members of the set on both sides or on none. -/
  | noBoundary (letters : Pattern.CharSet)
  /-- A member of the set after, and none before. -/
  | wordStart (letters : Pattern.CharSet)
  /-- A member of the set before, and none after. -/
  | wordEnd (letters : Pattern.CharSet)
  /-- No member of the set before. -/
  | wordStartHalf (letters : Pattern.CharSet)
  /-- No member of the set after. -/
  | wordEndHalf (letters : Pattern.CharSet)
deriving Repr, DecidableEq

/-- A pattern of texts. -/
inductive Pattern where
  /-- The empty text. -/
  | empty
  /-- One character of a set. -/
  | set (members : Pattern.CharSet)
  /-- The empty text where a condition holds. -/
  | anchor (condition : Pattern.Anchor)
  /-- One pattern after another. -/
  | sequence (first second : Pattern)
  /-- Either pattern, the first one preferred. -/
  | choice (first second : Pattern)
  /--
  A pattern repeated at least and at most so often; a greedy repetition
  prefers more rounds, the others prefer fewer.
  -/
  | repetition (body : Pattern) (least : Nat) (most : Option Nat) (greedy : Bool)
deriving Repr, DecidableEq

namespace Pattern

/-- Patterns one after the other. -/
def sequences : List Pattern → Pattern
  | [] => empty
  | [pattern] => pattern
  | pattern :: patterns => sequence pattern (sequences patterns)

/-- Any of the patterns, earlier ones preferred. -/
def choices : List Pattern → Pattern
  | [] => empty
  | [pattern] => pattern
  | pattern :: patterns => choice pattern (choices patterns)

/-- The pattern of one character. -/
def character (character : Char) : Pattern :=
  set (CharSet.single character)

/-- Whether a match of a pattern can consume a character. -/
def consumes : Pattern → Bool
  | empty => false
  | set _ => true
  | anchor _ => false
  | sequence first second => first.consumes || second.consumes
  | choice first second => first.consumes || second.consumes
  | repetition body _ most _ => body.consumes && most != some 0

/-- A repetition, in which a pattern that consumes nothing has one round at most. -/
def repeated
    (body : Pattern)
    (least : Nat)
    (most : Option Nat)
    (greedy : Bool) : Pattern :=
  if body.consumes then
    repetition body least most greedy
  else
    repetition body (min least 1) (some (min (most.getD 1) 1)) greedy

end Pattern
end RCompletion
