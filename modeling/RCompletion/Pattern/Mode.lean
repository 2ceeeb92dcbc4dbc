import RCompletion.Pattern.Error

/-!
# Modes

The flags of a pattern, such as `(?i)`, change how the text after them is read,
up to the end of the enclosing group.
-/

namespace RCompletion
namespace Pattern

/-- How the next part of a pattern is read. -/
structure Mode where
  /-- Letters match without regard to case. -/
  ignoreCase : Bool := false
  /-- `^` and `$` match at lines. -/
  multiLine : Bool := false
  /-- `.` matches a line end. -/
  dotAll : Bool := false
  /-- A carriage return ends lines too. -/
  returns : Bool := false
  /-- Repetitions are greedy only when marked with `?`. -/
  swapGreed : Bool := false
  /-- Classes reach beyond ASCII. -/
  unicode : Bool := true
  /-- Blanks and comments are skipped. -/
  verbose : Bool := false
deriving Repr, DecidableEq

/-- A mode with one flag set or cleared, if there is such a flag. -/
def Mode.withFlag? (mode : Mode) (flag : Char) (value : Bool) : Option Mode :=
  match flag with
  | 'i' => some { mode with ignoreCase := value }
  | 'm' => some { mode with multiLine := value }
  | 's' => some { mode with dotAll := value }
  | 'R' => some { mode with returns := value }
  | 'U' => some { mode with swapGreed := value }
  | 'u' => some { mode with unicode := value }
  | 'x' => some { mode with verbose := value }
  | _ => none

/-- The flags of a group, and whether a `:` or a `)` ended them. -/
structure Flags where
  /-- The mode after the flags. -/
  mode : Mode
  /-- Whether the flags apply to the rest of the enclosing group. -/
  directive : Bool
  /-- The rest of the pattern. -/
  rest : List Char

/-- Read the flags of a group, which follow its `(?`. -/
def readFlags
    (mode : Mode)
    (value : Bool)
    (seen : List Char) :
    List Char → Except SyntaxError Flags
  | [] => .error .invalidFlags
  | character :: rest =>
      if character == ':' || character == ')' then
        if seen.head? == some '-' || (character == ')' && seen.isEmpty) then
          .error .invalidFlags
        else
          .ok ⟨mode, character == ')', rest⟩
      else if seen.contains character then
        .error .invalidFlags
      else if character == '-' then
        readFlags mode false (character :: seen) rest
      else
        match mode.withFlag? character value with
        | some mode => readFlags mode value (character :: seen) rest
        | none => .error .invalidFlags

end Pattern
end RCompletion
