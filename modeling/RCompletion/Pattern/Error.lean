/-!
# What is wrong with a pattern

The reasons for which a text is no pattern.
-/

namespace RCompletion
namespace Pattern

/-- The reason why a text is no pattern. -/
inductive SyntaxError where
  /-- A closing parenthesis without an opening one. -/
  | unopenedGroup
  /-- An opening parenthesis without a closing one. -/
  | unclosedGroup
  /-- A group name that is empty, unfinished or has a character it may not have. -/
  | invalidGroupName
  /-- A group name that an earlier group has. -/
  | duplicateGroupName (name : String)
  /-- A list of flags that is empty, unfinished, repeats itself or has an unknown flag. -/
  | invalidFlags
  /-- A group that looks ahead or behind. -/
  | unsupportedLookaround
  /-- A reference to an earlier group. -/
  | unsupportedBackreference
  /-- A repetition of nothing. -/
  | nothingToRepeat
  /-- A repetition count that is missing, too large or descending. -/
  | invalidCount
  /-- A repetition count without its closing brace. -/
  | unclosedCount
  /-- A backslash at the end of the text or before an unknown letter. -/
  | invalidEscape
  /-- A code point that is written wrongly or is no character. -/
  | invalidCodePoint
  /-- A bracket expression without its closing bracket. -/
  | unclosedBracket
  /-- A range whose ends are no characters or are in descending order. -/
  | invalidRange
  /-- An anchor in a bracket expression. -/
  | invalidMember
  /-- A category name that is unfinished or unknown. -/
  | unknownCategory
  /-- A set that would match a part of a character. -/
  | partOfCharacter
  /-- Counted repetitions that add up to more than the bound on patterns. -/
  | tooLarge
deriving Repr, DecidableEq

end Pattern
end RCompletion
